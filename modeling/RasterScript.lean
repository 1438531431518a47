import RasterScript.Command.Spelling
import RasterScript.Grid.Rows
import RasterScript.Main
import RasterScript.Proofs.Archive.FailedSave
import RasterScript.Proofs.Session.SoundImages
import RasterScript.Proofs.Command.Wording
import RasterScript.Proofs.Text.Layout
import RasterScript.Proofs.Command.Reading
import RasterScript.Proofs.Command.Parsing
import RasterScript.Proofs.Archive.SaveFrame
import RasterScript.Proofs.Text.OneLine
import RasterScript.Proofs.Messages.Commands
import RasterScript.Proofs.Session.Reports
import RasterScript.Proofs.Archive.SaveRuns
import RasterScript.Proofs.Command.ShortForms
import RasterScript.Proofs.Session.ScriptRuns
import RasterScript.Proofs.Archive.LoadConfinement
import RasterScript.Proofs.Layered.OnlyLayer
import RasterScript.Proofs.Session.Histories
import RasterScript.Proofs.Command.Locality
import RasterScript.Proofs.Session.WrittenPictures
import RasterScript.Proofs.Filter.Stencils
import RasterScript.Proofs.Archive.ManifestReading
import RasterScript.Proofs.Session.Batches
import RasterScript.Proofs.Archive.CutManifest
import RasterScript.Proofs.Archive.LoadingBound
import RasterScript.Proofs.Archive.LayerFiles
import RasterScript.Proofs.Files.Resolution
import RasterScript.Proofs.Settings.ChosenSettings
import RasterScript.Proofs.Session.Creation
import RasterScript.Proofs.Grid.Insertion
import RasterScript.Proofs.Grid.Painting
import RasterScript.Proofs.Grid.Requests
import RasterScript.Proofs.Layered.FrontAssembly
