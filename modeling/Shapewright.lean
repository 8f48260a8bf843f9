import Shapewright.Command.Run
import Shapewright.Console.Display
import Shapewright.Declaration.Generate
import Shapewright.Files.TextFile
import Shapewright.Handler
import Shapewright.Json.Document
import Shapewright.Json.Writer
import Shapewright.Main
import Shapewright.Settings.Schema
import Shapewright.Settings.Storage
import Shapewright.Yaml.Document
import Shapewright.Yaml.Writer
import Shapewright.Proofs.Declaration.Walk
import Shapewright.Proofs.Declaration.Name
import Shapewright.Proofs.Declaration.Outline
import Shapewright.Proofs.Declaration.Checks
import Shapewright.Proofs.Declaration.Shape
import Shapewright.Proofs.Declaration.Decoding
import Shapewright.Proofs.Handler
import Shapewright.Proofs.Json.Document
import Shapewright.Proofs.Settings.Storage
import Shapewright.Proofs.Declaration.LineCount
import Shapewright.Proofs.Json.Acceptance
import Shapewright.Proofs.Settings.Loading
import Shapewright.Proofs.Settings.YamlStorage
import Shapewright.Proofs.Handler.Placement
import Shapewright.Proofs.Settings.Reachable
import Shapewright.Proofs.Declaration.Depth
import Shapewright.Proofs.Command.Agreement
import Shapewright.Proofs.Declaration.Loop
import Shapewright.Proofs.Declaration.NormalForm
import Shapewright.Proofs.Json.Search
import Shapewright.Proofs.Command.ExitCode
import Shapewright.Proofs.Declaration.Collection
