import Signpost.Main
import Signpost.Proofs.SessionCourse
import Signpost.Proofs.StreamClosing
import Signpost.Proofs.TableConvergence
import Signpost.Provider.Listener
import Signpost.Service.Session
import Signpost.Shutdown
import Signpost.Text.Utf8.Lemmas
import Signpost.Proofs.LifeCycle
import Signpost.Proofs.AnchoredSearch
import Signpost.Proofs.TableComposition
import Signpost.Proofs.FurtherReading
import Signpost.Proofs.PrefixRules
import Signpost.Proofs.LongerPattern
import Signpost.Proofs.AnchoredRules
import Signpost.Proofs.LineSearch
import Signpost.Proofs.DockerSignals
import Signpost.Proofs.LiteralPattern
import Signpost.Proofs.HostIsolation
import Signpost.Proofs.HostPrecedence
import Signpost.Proofs.PrefixRewriting
import Signpost.Proofs.LiteralRewriting
import Signpost.Proofs.RulesFileReports
import Signpost.Proofs.ProviderSignals
import Signpost.Proofs.ConfigurationFile
import Signpost.Proofs.SettingsValidity
import Signpost.Proofs.LocalAnswers
import Signpost.Proofs.SourceRules
import Signpost.Proofs.RuleLineChecks
import Signpost.Proofs.SettingsVariables
import Signpost.Proofs.ConfiguredTable
import Signpost.Proofs.ExcludedContainers
import Signpost.Proofs.NormalTables
import Signpost.Proofs.FirstRule
import Signpost.Proofs.Retrying
import Signpost.Proofs.StoppedCalls
import Signpost.Proofs.Resubscribing
import Signpost.Proofs.ContainerRules
import Signpost.Proofs.ContainerRoutes
import Signpost.Proofs.RulesFileListing
import Signpost.Proofs.LoggingTexts
import Signpost.Proofs.VariableLists
import Signpost.Proofs.ContainerMaps
