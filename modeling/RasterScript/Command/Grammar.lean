import RasterScript.Command.Cursor

/-!
# Grammar — script lines as commands

A line is split into words; the first is the keyword, the rest are its arguments.  The meaning of
the arguments depends on their number alone.  Where a command allows names to be left out, those of
the cursor stand in for them.

Every rule makes sure of the number of arguments first, then reads the arguments, and last has the
command checked.
-/

namespace RasterScript

/-! ## 1. Words of a rule -/

/-- A signed number; `what` names it in the message. -/
def readInteger (what token : String) : Except Refusal Int :=
  match integer? token with
  | some v => .ok v
  | none => .error (.notANumber what token)

/-- A size, position or index; `what` names it in the message. -/
def readSize (what token : String) : Except Refusal Nat :=
  match size? token with
  | some v => .ok v
  | none => .error (.notAnIndex what token)

/-- Whether a layer is to be shown.  Letter case does not matter: the words are ASCII and hold no
letter that is the lower case of anything outside ASCII. -/
def readVisibility (token : String) : Except Refusal Bool :=
  match token.toLower with
  | "visible" => .ok true
  | "true" => .ok true
  | "invisible" => .ok false
  | "false" => .ok false
  | _ => .error (.unknownVisibility token)

/-- The target that names stand for: none, the cursor's layer; one, an image; two, a layer. -/
def readTarget (cursor : Cursor) : List String → Except Refusal Target
  | [] => do return .layer (← cursor.requireImage) (← cursor.requireLayer)
  | [name] => .ok (.image name)
  | [image, layer] => .ok (.layer image layer)
  | _ => .error .tooManyNames

/-- A wrong number of arguments. -/
def wrongCount {α : Type} (k : Keyword) (expected : String) (args : List String) :
    Except Refusal α :=
  .error (.argumentCount k.text expected args.length)

/-- The image, which may be left out, and the `fixed` arguments after it. -/
def readImage (k : Keyword) (fixed : Nat) (cursor : Cursor) (args : List String) :
    Except Refusal (String × List String) :=
  if args.length = fixed then do return (← cursor.requireImage, args)
  else match args with
    | image :: rest =>
      if rest.length = fixed then .ok (image, rest)
      else wrongCount k s!"{fixed} or {fixed + 1}" args
    | [] => wrongCount k s!"{fixed} or {fixed + 1}" args

/-! ## 2. Rules -/

namespace Grammar

def createImage (args : List String) : Except Refusal Command :=
  match args with
  | [] => wrongCount .createImage "at least 2" args
  | ["checkerboard", name, size, count, r₁, g₁, b₁, r₂, g₂, b₂] => do
    let size ← readSize "tile size" size
    let count ← readSize "tile count" count
    let r₁ ← readInteger "red" r₁
    let g₁ ← readInteger "green" g₁
    let b₁ ← readInteger "blue" b₁
    let r₂ ← readInteger "red" r₂
    let g₂ ← readInteger "green" g₂
    let b₂ ← readInteger "blue" b₂
    let first ← Command.solidColor r₁ g₁ b₁
    let second ← Command.solidColor r₂ g₂ b₂
    (Command.createImage name (.checkerboard size count first second)).checked
  | "checkerboard" :: _ => wrongCount .createImage "10" args
  | ["empty", name] => (Command.createImage name .empty).checked
  | "empty" :: _ => wrongCount .createImage "2" args
  | ["transparent", name, w, h] => do
    let w ← readSize "width" w
    let h ← readSize "height" h
    (Command.createImage name (.transparent w h)).checked
  | "transparent" :: _ => wrongCount .createImage "4" args
  | ["copy", name, source] => (Command.createImage name (.copy source)).checked
  | "copy" :: _ => wrongCount .createImage "3" args
  | ["from-file", name, path] => (Command.createImage name (.file ⟨path⟩)).checked
  | "from-file" :: _ => wrongCount .createImage "3" args
  | kind :: _ => .error (.unknownImageSource kind)

def createLayeredImage (args : List String) : Except Refusal Command :=
  match args with
  | ["blank", name, w, h] => do
    let w ← readSize "width" w
    let h ← readSize "height" h
    (Command.createLayeredImage name (.blank w h)).checked
  | ["import", name, dir] => (Command.createLayeredImage name (.directory ⟨dir⟩)).checked
  | "blank" :: _ => wrongCount .createLayeredImage "4" args
  | "import" :: _ => wrongCount .createLayeredImage "3" args
  | kind :: _ => .error (.unknownLayeredSource kind)
  | [] => wrongCount .createLayeredImage "at least 3" args

def updateColor (cursor : Cursor) (args : List String) : Except Refusal Command :=
  let names := args.take (args.length - 6)
  match args.drop (args.length - 6) with
  | [x, y, r, g, b, o] =>
    if names.length ≤ 2 then do
      let target ← readTarget cursor names
      let x ← readSize "x" x
      let y ← readSize "y" y
      let r ← readInteger "red" r
      let g ← readInteger "green" g
      let b ← readInteger "blue" b
      let o ← readInteger "opacity" o
      let color ← Command.fullColor r g b o
      (Command.updateColor target x y color).checked
    else wrongCount .updateColor "6 to 8" args
  | _ => wrongCount .updateColor "6 to 8" args

def applyMutator (cursor : Cursor) (args : List String) : Except Refusal Command :=
  match args with
  | [] => wrongCount .applyMutator "1 to 3" args
  | kind :: names =>
    if names.length ≤ 2 then do
      let mutator ← MutatorKind.ofText kind
      let target ← readTarget cursor names
      (Command.applyMutator target mutator).checked
    else wrongCount .applyMutator "1 to 3" args

def save (cursor : Cursor) (args : List String) : Except Refusal Command :=
  let names := args.take (args.length - 2)
  match args.drop (args.length - 2) with
  | [format, path] =>
    if names.length ≤ 2 then do
      let format ← ImageFormat.ofText format
      let target ← readTarget cursor names
      (Command.save target format ⟨path⟩).checked
    else wrongCount .save "2 to 4" args
  | _ => wrongCount .save "2 to 4" args

/-- Reads the arguments of a command on an image, which may be left out, with one argument. -/
def withOne (k : Keyword) (make : String → String → Except Refusal Command) (cursor : Cursor)
    (args : List String) : Except Refusal Command := do
  match ← readImage k 1 cursor args with
  | (image, [a]) => make image a
  | _ => wrongCount k "1 or 2" args

/-- Reads the arguments of a command on an image, which may be left out, with two arguments. -/
def withTwo (k : Keyword) (make : String → String → String → Except Refusal Command)
    (cursor : Cursor) (args : List String) : Except Refusal Command := do
  match ← readImage k 2 cursor args with
  | (image, [a, b]) => make image a b
  | _ => wrongCount k "2 or 3" args

def load (args : List String) : Except Refusal Command :=
  match args with
  | [image] => (Command.load image).checked
  | _ => wrongCount .load "1" args

def updateVisibility (cursor : Cursor) (args : List String) : Except Refusal Command :=
  match args with
  | [flag] => do
    let image ← cursor.requireImage
    let layer ← cursor.requireLayer
    let visible ← readVisibility flag
    (Command.updateVisibility image layer visible).checked
  | [layer, flag] => do
    let image ← cursor.requireImage
    let visible ← readVisibility flag
    (Command.updateVisibility image layer visible).checked
  | [image, layer, flag] => do
    let visible ← readVisibility flag
    (Command.updateVisibility image layer visible).checked
  | _ => wrongCount .updateVisibility "1 to 3" args

/-- Reads the arguments of a keyword. -/
def rule (cursor : Cursor) (args : List String) : Keyword → Except Refusal Command
  | .createImage => createImage args
  | .createLayeredImage => createLayeredImage args
  | .updateColor => updateColor cursor args
  | .applyMutator => applyMutator cursor args
  | .save => save cursor args
  | .saveLayered =>
    withOne .saveLayered (fun image dir => (Command.saveLayered image ⟨dir⟩).checked) cursor args
  | .saveAsImage =>
    withTwo .saveAsImage (fun image format path => do
      let format ← ImageFormat.ofText format
      (Command.saveAsImage image format ⟨path⟩).checked) cursor args
  | .load => load args
  | .setCurrentLayer =>
    withOne .setCurrentLayer (fun image layer => (Command.setCurrentLayer image layer).checked)
      cursor args
  | .addLayer =>
    withOne .addLayer (fun image layer => (Command.addLayer image layer).checked) cursor args
  | .copyLayer =>
    withTwo .copyLayer (fun image layer source => (Command.copyLayer image layer source).checked)
      cursor args
  | .addImageAsLayer =>
    withTwo .addImageAsLayer (fun image layer path =>
      (Command.addImageAsLayer image layer ⟨path⟩).checked) cursor args
  | .moveLayer =>
    withTwo .moveLayer (fun image layer index => do
      let index ← readSize "layer index" index
      (Command.moveLayer image layer index).checked) cursor args
  | .removeLayer =>
    withOne .removeLayer (fun image layer => (Command.removeLayer image layer).checked) cursor args
  | .updateVisibility => updateVisibility cursor args

end Grammar

/-! ## 3. Lines -/

namespace Command

def parse (cursor : Cursor) (tokens : List String) : Except Refusal Command :=
  match tokens with
  | [] => .error .emptyCommand
  | keyword :: args => do
    require (tokens.all fun t => t ≠ "") .emptyToken
    match Keyword.ofText? keyword with
    | none => .error (.unknownCommand keyword)
    | some k => Grammar.rule cursor args k

/-- The command that a script line stands for. -/
def parseLine (cursor : Cursor) (line : String) : Except Refusal Command :=
  parse cursor (wordsOf line)

end Command

end RasterScript
