import CardServer.Fault
import CardServer.Launch
import CardServer.Main
import CardServer.Service
import CardServer.Settings.Direct
import CardServer.Settings.File
import CardServer.Proofs.Json.Completeness
import CardServer.Proofs.Prompt.Leftmost
import CardServer.Proofs.Json.Written
import CardServer.Proofs.Prompt.Marker
import CardServer.Proofs.Service.Dispatch
import CardServer.Proofs.Generate.RoundTrip
import CardServer.Proofs.RequestId.Choice
import CardServer.Proofs.RequestId.Propagation
import CardServer.Proofs.Service.Conservation
import CardServer.Proofs.Generate.Reading
import CardServer.Proofs.Generate.Agreement
import CardServer.Proofs.Service.Independence
import CardServer.Proofs.Settings.Keys
import CardServer.Proofs.Settings.Layers
import CardServer.Proofs.Service.Routing
import CardServer.Proofs.Service.Dependence
import CardServer.Proofs.Settings.EnvFile
import CardServer.Proofs.Json.Integer
import CardServer.Proofs.Settings.Port
import CardServer.Proofs.Generate.Wire
import CardServer.Proofs.Service.Cardinality
import CardServer.Proofs.Service.Aliases
import CardServer.Proofs.Log.Plain
import CardServer.Proofs.Launch.Selection
import CardServer.Proofs.Prompt.Pieces
import CardServer.Proofs.Prompt.Surroundings
import CardServer.Proofs.Service.Scrape
import CardServer.Proofs.Generate.Irrelevance
import CardServer.Proofs.Generate.Sentence
import CardServer.Proofs.Launch.Wrapping
import CardServer.Proofs.Net.Spelling
import CardServer.Proofs.Settings.Variables
import CardServer.Proofs.Settings.Whole
