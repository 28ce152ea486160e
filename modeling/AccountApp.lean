import AccountApp.Laws.Causality
import AccountApp.Laws.EmailProfile
import AccountApp.Laws.FacebookDialog
import AccountApp.Laws.FacebookProfile
import AccountApp.Laws.FormMode
import AccountApp.Laws.Handover
import AccountApp.Laws.Isolation
import AccountApp.Laws.Phone
import AccountApp.Laws.Profiles
import AccountApp.Laws.Records
import AccountApp.Laws.Registration
import AccountApp.Laws.Segue
import AccountApp.Laws.Settling
import AccountApp.Laws.SignOut
import AccountApp.Dialog.Origins
import AccountApp.Dialog.Refresh
import AccountApp.Joint.Laws
