import DcgmDiag.Basic
import DcgmDiag.CArray
import DcgmDiag.Structs
import DcgmDiag.Upgrade
import DcgmDiag.Module
import DcgmDiag.Dispatch
import DcgmDiag.Normalize
import DcgmDiag.Plugin
import DcgmDiag.Software.Env
import DcgmDiag.Software.PageRetirement
import DcgmDiag.Software.Checks
import DcgmDiag.Software.Denylist
import DcgmDiag.Software.Permissions
import DcgmDiag.Software.DevEntry
import DcgmDiag.Software.Go
