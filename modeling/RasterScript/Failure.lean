import RasterScript.Text.Quoted

/-!
# Failure — why an operation did not succeed

Two layers.  A `Refusal` is a request that makes no sense as it stands: a bad name or number, an
unknown or doubled thing, a position outside a picture, a malformed line.  A `Failure` is a refusal
or a fault of something the request depends on: the file store, a picture file, a manifest.

Causes are constructors; all wording is in `Refusal.message` and `Failure.message`.
-/

namespace RasterScript

/-! ## 1. Refusals -/

/-- What a name is given to. -/
inductive NameKind
  | image
  | layer
  deriving DecidableEq, Repr

def NameKind.text : NameKind → String
  | .image => "image"
  | .layer => "layer"

/-- The things that a request can name. -/
inductive Named
  | image
  | layeredImage
  | layer
  | imageFile
  | directory
  deriving DecidableEq, Repr

def Named.text : Named → String
  | .image => "image"
  | .layeredImage => "layered image"
  | .layer => "layer"
  | .imageFile => "image file"
  | .directory => "directory"

/-- The two ways a picture can be cut. -/
inductive Axis
  | row
  | column
  deriving DecidableEq, Repr

def Axis.text : Axis → String
  | .row => "row"
  | .column => "column"

/-- Why a request is refused. -/
inductive Refusal
  -- names and numbers
  | emptyName (kind : NameKind)
  | blankInName (kind : NameKind) (name : String)
  | separatorInName (name : String)
  | notANumber (what token : String)
  | notAnIndex (what token : String)
  | outsideChannel (what : String) (value : Int)
  | unknownMutator (word : String)
  | unknownFormat (word : String)
  | unknownVisibility (word : String)
  -- things that are not there, or are there already
  | missing (what : Named) (name : String)
  | taken (what : Named) (name : String)
  -- sizes and positions
  | emptyPicture (width height : Nat)
  | emptyLayeredImage (width height : Nat)
  | tooManyPixels (width height limit : Nat)
  | tooLongSide (width height limit : Nat)
  | pixelCount (got width height : Nat)
  | sizeMismatch (width height imageWidth imageHeight : Nat)
  | outsidePicture (x y width height : Nat)
  | outsideLines (axis : Axis) (index last : Nat)
  | outsideLayers (index count : Nat)
  | kernelSize (radius needed got : Nat)
  -- checkerboards
  | noTileSize
  | noTiles
  | tilesNotSquare (count : Nat)
  | tilesNotPositiveSquare (count : Nat)
  | hugeCheckerboard
  -- paths and archives
  | emptyPath
  | emptyOutputPath
  | notADirectory (path : String)
  | tooManyLayersToSave (count limit : Nat)
  | foreignFile (path : String)
  | notAManifest (path : String)
  | noManifest (directory file : String)
  | archiveSize (width height limit : Nat)
  | tooManyLayersListed (count limit : Nat)
  | notAPlainFileName (file : String)
  | layerSize (layer : String) (width height expectedWidth expectedHeight : Nat)
  -- script lines
  | emptyCommand
  | emptyToken
  | unknownCommand (keyword : String)
  | argumentCount (keyword expected : String) (got : Nat)
  | unknownImageSource (word : String)
  | unknownLayeredSource (word : String)
  | noCurrentImage
  | noCurrentLayer
  | tooManyNames
  deriving DecidableEq, Repr

def sizeText (width height : Nat) : String :=
  s!"{width}x{height}"

def Refusal.message : Refusal → String
  | .emptyName kind => s!"{kind.text} name must not be empty"
  | .blankInName kind name =>
    s!"{kind.text} name '" ++ quoted name ++ "' must not contain whitespace"
  | .separatorInName name => s!"layer name '{name}' must not contain path separators"
  | .notANumber what token => s!"{what} '{token}' is not a valid number"
  | .notAnIndex what token => s!"{what} '{token}' is not a non-negative integer"
  | .outsideChannel what value => s!"{what} {value} is outside [0, 255]"
  | .unknownMutator word => s!"unknown mutator '{word}'"
  | .unknownFormat word => s!"unsupported image format '{word}'"
  | .unknownVisibility word => s!"visibility must be visible or invisible, got '{word}'"
  | .missing what name => s!"{what.text} '{name}' does not exist"
  | .taken what name => s!"{what.text} '{name}' already exists"
  | .emptyPicture w h => s!"image dimensions must be positive, got {sizeText w h}"
  | .emptyLayeredImage w h => s!"layered image dimensions must be positive, got {sizeText w h}"
  | .tooManyPixels w h limit => s!"image dimensions {sizeText w h} exceed {limit} pixels"
  | .tooLongSide w h limit =>
    s!"image size {sizeText w h} exceeds the {limit} pixel limit per side"
  | .pixelCount got w h =>
    s!"pixel buffer holds {got} pixels but {sizeText w h} needs {w * h}"
  | .sizeMismatch w h iw ih =>
    s!"image is {sizeText w h} but the layered image is {sizeText iw ih}"
  | .outsidePicture x y w h => s!"position ({x}, {y}) is outside the {sizeText w h} image"
  | .outsideLines axis index last => s!"{axis.text} index {index} is outside 0..={last}"
  | .outsideLayers index count => s!"layer index {index} is outside 0..{count}"
  | .kernelSize radius needed got =>
    s!"kernel of radius {radius} needs {needed} weights, got {got}"
  | .noTileSize => "tile size must be positive"
  | .noTiles => "tile count must be positive"
  | .tilesNotSquare count => s!"tile count {count} is not a perfect square"
  | .tilesNotPositiveSquare count => s!"tile count {count} is not a positive perfect square"
  | .hugeCheckerboard => "checkerboard is too large"
  | .emptyPath => "path must not be empty"
  | .emptyOutputPath => "output path must not be empty"
  | .notADirectory path => s!"'{path}' is not a directory"
  | .tooManyLayersToSave count limit => s!"cannot save {count} layers, the maximum is {limit}"
  | .foreignFile path => s!"'{path}' already exists and was not written by an earlier save"
  | .notAManifest path => s!"'{path}' is not a layered image manifest"
  | .noManifest directory file => s!"'{directory}' has no {file}"
  | .archiveSize w h limit =>
    s!"layered image size {sizeText w h} is outside 1..={limit} per side"
  | .tooManyLayersListed count limit =>
    s!"manifest lists {count} layers, which exceeds the maximum of {limit}"
  | .notAPlainFileName file => s!"layer file '{file}' is not a plain file name"
  | .layerSize layer w h ew eh =>
    s!"layer '{layer}' is {sizeText w h}, expected {sizeText ew eh}"
  | .emptyCommand => "empty command"
  | .emptyToken => "command contains an empty token"
  | .unknownCommand keyword => s!"unsupported command '{keyword}'"
  | .argumentCount keyword expected got =>
    s!"{keyword} expects {expected} argument(s), got {got}"
  | .unknownImageSource word =>
    s!"unknown image source '{word}' (expected checkerboard, empty, transparent, copy or from-file)"
  | .unknownLayeredSource word =>
    s!"unknown layered image source '{word}' (expected blank or import)"
  | .noCurrentImage => "no image name given and no current image is set"
  | .noCurrentLayer => "no layer name given and no current layer is set"
  | .tooManyNames => "too many image names"

/-! ## 2. Faults of files -/

/-- What a disk does not do although names and directories allow it. -/
inductive DiskFault
  | permissionDenied
  | noSpace
  | broken
  deriving DecidableEq, Repr

def DiskFault.message : DiskFault → String
  | .permissionDenied => "permission denied"
  | .noSpace => "no space left on device"
  | .broken => "input/output error"

/-- Why the file store did not do what it was asked. -/
inductive FileFault
  | notFound
  | notADirectory
  | isADirectory
  | alreadyExists
  | nameTooLong
  | invalidName
  | disk (fault : DiskFault)
  deriving DecidableEq, Repr

def FileFault.message : FileFault → String
  | .notFound => "no such file or directory"
  | .notADirectory => "not a directory"
  | .isADirectory => "is a directory"
  | .alreadyExists => "file exists"
  | .nameTooLong => "file name too long"
  | .invalidName => "file name contains a NUL byte"
  | .disk fault => fault.message

/-- Why the bytes of a picture file are no picture, or a picture did not become a file. -/
inductive CodecFault
  | unknownFormat
  | malformed
  | sideTooLong
  | disk (fault : DiskFault)
  deriving DecidableEq, Repr

def CodecFault.message : CodecFault → String
  | .unknownFormat => "the picture format could not be determined"
  | .malformed => "the picture data is malformed"
  | .sideTooLong => "a side is too long for the format"
  | .disk fault => fault.message

/-- Why the bytes of a manifest are no manifest, or a manifest did not become a file. -/
inductive ManifestFault
  | truncated
  | invalidFlag
  | invalidText
  | disk (fault : DiskFault)
  deriving DecidableEq, Repr

def ManifestFault.message : ManifestFault → String
  | .truncated => "unexpected end of data"
  | .invalidFlag => "a flag is neither 0 nor 1"
  | .invalidText => "a text is not valid UTF-8"
  | .disk fault => fault.message

/-! ## 3. Failures -/

/-- Why an operation did not succeed. -/
inductive Failure
  | refused (cause : Refusal)
  | file (fault : FileFault)
  | codec (fault : CodecFault)
  | persistence (fault : ManifestFault)
  deriving DecidableEq, Repr

def Failure.message : Failure → String
  | .refused cause => cause.message
  | .file fault => "I/O error: " ++ fault.message
  | .codec fault => "codec error: " ++ fault.message
  | .persistence fault => "persistence error: " ++ fault.message

instance : Coe Refusal Failure := ⟨Failure.refused⟩

/-- Goes on only if `holds`; otherwise the request is refused for `cause`. -/
def require (holds : Bool) (cause : Refusal) : Except Refusal Unit :=
  if holds then .ok () else .error cause

@[simp] theorem require_eq_ok {holds : Bool} {cause : Refusal} :
    require holds cause = .ok () ↔ holds = true := by
  cases holds <;> simp [require]

theorem require_eq_error {holds : Bool} {cause c : Refusal} :
    require holds cause = .error c ↔ holds = false ∧ cause = c := by
  cases holds <;> simp [require]

end RasterScript
