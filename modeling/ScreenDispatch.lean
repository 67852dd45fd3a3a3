import ScreenDispatch.Main
import ScreenDispatch.Proofs.BindingNames
import ScreenDispatch.Proofs.DeclarationDetails
import ScreenDispatch.Proofs.DictionaryLayout
import ScreenDispatch.Proofs.EmptyLabels
import ScreenDispatch.Proofs.ExpansionForms
import ScreenDispatch.Proofs.FileReading
import ScreenDispatch.Proofs.Inquiries
import ScreenDispatch.Proofs.Interpolations
import ScreenDispatch.Proofs.InterruptedWrites
import ScreenDispatch.Proofs.LineStructure
import ScreenDispatch.Proofs.LooseEffects
import ScreenDispatch.Proofs.MappingUse
import ScreenDispatch.Proofs.NamedTypes
import ScreenDispatch.Proofs.PassedNames
import ScreenDispatch.Proofs.PolicyInfluence
import ScreenDispatch.Proofs.ReadingProgress
import ScreenDispatch.Proofs.RelaidArguments
import ScreenDispatch.Proofs.RepeatedRuns
import ScreenDispatch.Proofs.ReportedTotals
import ScreenDispatch.Proofs.RequestRules
import ScreenDispatch.Proofs.RescannedTokens
import ScreenDispatch.Proofs.SchemaReading
import ScreenDispatch.Proofs.ScreenAttributes
import ScreenDispatch.Proofs.UngroupedCases
import ScreenDispatch.Proofs.UnreachableErrors
