import PanelKeys.Main
import PanelKeys.Proofs.Command.TypedCount
import PanelKeys.Proofs.Config.LastEntry
import PanelKeys.Proofs.Length.Spelling
import PanelKeys.Proofs.Panel.Bookkeeping
import PanelKeys.Proofs.Session.AngleRows
import PanelKeys.Proofs.Session.AnyOrder
import PanelKeys.Proofs.Session.InchTexts
import PanelKeys.Proofs.Session.Overwritten
import PanelKeys.Proofs.Session.Regained
import PanelKeys.Proofs.Session.Reload
import PanelKeys.Proofs.Session.Reports
import PanelKeys.Proofs.Session.Rewrites
import PanelKeys.Proofs.Session.Settling
import PanelKeys.Proofs.Session.ShownPrompt
import PanelKeys.Proofs.Session.TableText
import PanelKeys.Proofs.Session.Targets
import PanelKeys.Proofs.Session.TrueReport
import PanelKeys.Proofs.Typing.CommandKeys
import PanelKeys.Proofs.Typing.KeyFate
import PanelKeys.Proofs.Typing.KeyText
import PanelKeys.Proofs.Typing.Race
import PanelKeys.Proofs.Typing.StaleTimer
import PanelKeys.Proofs.Typing.Word
import PanelKeys.Session.Timeline
import PanelKeys.Terminal.Transcript
