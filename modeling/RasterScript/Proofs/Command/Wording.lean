import Mathlib.Data.List.Forall2
import RasterScript.Command.Cursor
import RasterScript.Command.Spelling
import RasterScript.Proofs.Text.Numerals

/-!
# Wording — the words that stand for a command

A command is worded slot by slot: every slot holds one word, and for numbers, formats, mutators and
visibilities several words will do.  Some commands begin with the names of an image or a layer that
may be left out where the cursor says the same; `Naming.Written` lists how much of them may be.
Filling every slot with its first word and leaving nothing out gives `Command.tokens`.
-/

namespace RasterScript

/-! ## 1. Slots -/

/-- One place in the wording of a command, with what it has to say. -/
inductive Slot
  | word (text : String)
  | size (n : Nat)
  | channel (b : UInt8)
  | format (f : ImageFormat)
  | mutator (m : MutatorKind)
  | visibility (visible : Bool)
  deriving DecidableEq, Repr

def ImageFormat.spellings : ImageFormat → List String
  | .ppm => ["ppm"]
  | .png => ["png"]
  | .jpeg => ["jpeg", "jpg"]

def MutatorKind.spellings : MutatorKind → List String
  | .blur => ["blur"]
  | .sharpen => ["sharpen"]
  | .greyscale => ["greyscale", "grayscale"]
  | .sepia => ["sepia"]

def visibilitySpellings (visible : Bool) : List String :=
  if visible then ["visible", "true"] else ["invisible", "false"]

namespace Slot

/-- The first word for what a slot has to say. -/
def token : Slot → String
  | .word text => text
  | .size n => sizeToken n
  | .channel b => sizeToken b.toNat
  | .format f => f.text
  | .mutator m => m.text
  | .visibility visible => visibilityToken visible

/-- The words that say it: texts have one spelling, numbers may have a sign and zeros in front, and
the case of letters does not matter in the names of formats, mutators and visibilities. -/
def Spells : Slot → String → Prop
  | .word text, t => t = text
  | .size n, t => IsNumeral n t ∧ n < wordSize
  | .channel b, t => IsSignedNumeral b.toNat t
  | .format f, t => t.toLower ∈ f.spellings
  | .mutator m, t => t.toLower ∈ m.spellings
  | .visibility visible, t => t.toLower ∈ visibilitySpellings visible

/-- Sizes have to fit a word. -/
def Fits : Slot → Prop
  | .size n => n < wordSize
  | _ => True

theorem spells_token {s : Slot} (h : s.Fits) : s.Spells s.token := by
  cases s with
  | word text => rfl
  | size n => exact ⟨isNumeral_toString n, h⟩
  | channel b => exact isSignedNumeral_toString b.toNat
  | format f =>
    show f.text.toLower ∈ f.spellings
    cases f <;> decide +kernel
  | mutator m =>
    show m.text.toLower ∈ m.spellings
    cases m <;> decide +kernel
  | visibility visible =>
    show (visibilityToken visible).toLower ∈ visibilitySpellings visible
    cases visible <;> decide +kernel

end Slot

/-! ## 2. Names that may be left out -/

/-- The names that a command begins with, as far as the cursor can stand in for them. -/
inductive Naming
  | nothing
  | target (t : Target)
  | image (image : String)
  | layer (image layer : String)
  deriving DecidableEq, Repr

namespace Naming

def tokens : Naming → List String
  | .nothing => []
  | .target t => t.tokens
  | .image i => [i]
  | .layer i l => [i, l]

/-- The names as they may be written: a target is left out as a whole and only if it is the current
layer, an image if it is the current one, and a layer only together with its image. -/
def Written (cursor : Cursor) : Naming → List String → Prop
  | .nothing, written => written = []
  | .target t, written => written = t.tokens ∨
      written = [] ∧ ∃ i l, t = .layer i l ∧ cursor = ⟨some i, some l⟩
  | .image i, written => written = [i] ∨ written = [] ∧ cursor.image = some i
  | .layer i l, written => written = [i, l] ∨ written = [l] ∧ cursor.image = some i ∨
      written = [] ∧ cursor = ⟨some i, some l⟩

theorem written_tokens (cursor : Cursor) (n : Naming) : n.Written cursor n.tokens := by
  cases n with
  | nothing => rfl
  | target t => exact .inl rfl
  | image i => exact .inl rfl
  | layer i l => exact .inl rfl

end Naming

/-! ## 3. Commands -/

/-- The slots of a command around the names that may be left out. -/
structure Wording where
  front : List Slot
  names : Naming
  back : List Slot

namespace Wording

/-- The slots with nothing left out. -/
def slots (w : Wording) : List Slot := w.front ++ w.names.tokens.map .word ++ w.back

/-- The words `args` fill the slots; of the names, some may be left out. -/
def Spelled (cursor : Cursor) (w : Wording) (args : List String) : Prop :=
  ∃ front names back, args = front ++ names ++ back ∧ List.Forall₂ Slot.Spells w.front front ∧
    w.names.Written cursor names ∧ List.Forall₂ Slot.Spells w.back back

theorem map_token_slots (w : Wording) : w.slots.map Slot.token =
    w.front.map Slot.token ++ w.names.tokens ++ w.back.map Slot.token := by
  have hnames : (w.names.tokens.map Slot.word).map Slot.token = w.names.tokens := by
    rw [List.map_map]
    exact List.map_id w.names.tokens
  unfold slots
  rw [List.map_append, List.map_append, hnames]

theorem spelled_front {cursor : Cursor} {ss : List Slot} {args : List String} :
    (⟨ss, .nothing, []⟩ : Wording).Spelled cursor args ↔ List.Forall₂ Slot.Spells ss args := by
  constructor
  · rintro ⟨front, names, back, rfl, hfront, hnames, hback⟩
    have hn : names = [] := hnames
    cases hback
    rw [hn, List.append_nil, List.append_nil]
    exact hfront
  · intro h
    exact ⟨args, [], [], by simp, h, rfl, .nil⟩

theorem spelled_back {cursor : Cursor} {n : Naming} {ss : List Slot} {args : List String} :
    (⟨[], n, ss⟩ : Wording).Spelled cursor args ↔
      ∃ names back, args = names ++ back ∧ n.Written cursor names ∧
        List.Forall₂ Slot.Spells ss back := by
  constructor
  · rintro ⟨front, names, back, rfl, hfront, hnames, hback⟩
    cases hfront
    exact ⟨names, back, rfl, hnames, hback⟩
  · rintro ⟨names, back, rfl, hnames, hback⟩
    exact ⟨[], names, back, rfl, .nil, hnames, hback⟩

end Wording

def Pixel.colorSlots (p : Pixel) : List Slot := [.channel p.red, .channel p.green, .channel p.blue]

namespace Command

/-- What stands behind the keyword. -/
def wording : Command → Wording
  | .createImage name (.checkerboard size count first second) =>
    ⟨[.word "checkerboard", .word name, .size size, .size count] ++ first.colorSlots ++
      second.colorSlots, .nothing, []⟩
  | .createImage name .empty => ⟨[.word "empty", .word name], .nothing, []⟩
  | .createImage name (.transparent w h) =>
    ⟨[.word "transparent", .word name, .size w, .size h], .nothing, []⟩
  | .createImage name (.copy source) => ⟨[.word "copy", .word name, .word source], .nothing, []⟩
  | .createImage name (.file path) =>
    ⟨[.word "from-file", .word name, .word path.text], .nothing, []⟩
  | .createLayeredImage name (.blank w h) =>
    ⟨[.word "blank", .word name, .size w, .size h], .nothing, []⟩
  | .createLayeredImage name (.directory path) =>
    ⟨[.word "import", .word name, .word path.text], .nothing, []⟩
  | .updateColor target x y color =>
    ⟨[], .target target, [.size x, .size y] ++ color.colorSlots ++ [.channel color.opacity]⟩
  | .applyMutator target mutator => ⟨[.mutator mutator], .target target, []⟩
  | .save target format path => ⟨[], .target target, [.format format, .word path.text]⟩
  | .saveLayered image path => ⟨[], .image image, [.word path.text]⟩
  | .saveAsImage image format path => ⟨[], .image image, [.format format, .word path.text]⟩
  | .load image => ⟨[.word image], .nothing, []⟩
  | .setCurrentLayer image layer => ⟨[], .image image, [.word layer]⟩
  | .addLayer image layer => ⟨[], .image image, [.word layer]⟩
  | .copyLayer image layer source => ⟨[], .image image, [.word layer, .word source]⟩
  | .addImageAsLayer image layer path => ⟨[], .image image, [.word layer, .word path.text]⟩
  | .moveLayer image layer index => ⟨[], .image image, [.word layer, .size index]⟩
  | .removeLayer image layer => ⟨[], .image image, [.word layer]⟩
  | .updateVisibility image layer visible => ⟨[], .layer image layer, [.visibility visible]⟩

/-- A line gives the colours of tiles without an opacity, so tiles are fully visible. -/
def SolidTiles : Command → Prop
  | .createImage _ (.checkerboard _ _ first second) => first.opacity = 255 ∧ second.opacity = 255
  | _ => True

/-- All slots, that of the keyword first. -/
def slots (c : Command) : List Slot := .word c.keyword.text :: c.wording.slots

/-- A command written out in full has the first word for every slot. -/
theorem tokens_eq_map_slots (c : Command) : c.tokens = c.slots.map Slot.token := by
  have harguments : c.arguments = c.wording.front.map Slot.token ++ c.wording.names.tokens ++
      c.wording.back.map Slot.token := by
    cases c with
    | createImage name source => cases source <;> rfl
    | createLayeredImage name source => cases source <;> rfl
    | updateColor target x y color =>
      show target.tokens ++ [_, _] ++ color.colorTokens ++ [_] = _
      rw [List.append_assoc, List.append_assoc]
      rfl
    | applyMutator target mutator => exact (List.append_nil _).symm
    | _ => rfl
  unfold tokens slots
  rw [List.map_cons, Wording.map_token_slots, ← harguments]
  rfl

/-- A command written out in full is spelled, if its numbers fit. -/
theorem spelled_arguments {c : Command} (hfits : ∀ s ∈ c.slots, s.Fits) (cursor : Cursor) :
    c.wording.Spelled cursor c.arguments := by
  have hspells : ∀ ss : List Slot, (∀ s ∈ ss, s ∈ c.slots) →
      List.Forall₂ Slot.Spells ss (ss.map Slot.token) := by
    intro ss hss
    rw [List.forall₂_map_right_iff, List.forall₂_same]
    exact fun s hs => Slot.spells_token (hfits s (hss s hs))
  have heq : c.arguments = c.wording.slots.map Slot.token :=
    (List.cons.inj c.tokens_eq_map_slots).2
  rw [Wording.map_token_slots] at heq
  refine ⟨_, _, _, heq, hspells _ ?_, Naming.written_tokens cursor _, hspells _ ?_⟩
  · intro s hs
    simp [slots, Wording.slots, hs]
  · intro s hs
    simp [slots, Wording.slots, hs]

end Command

end RasterScript
