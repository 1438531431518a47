import RasterScript.Proofs.Command.Effect
import RasterScript.StandardFormats

/-!
# Locality — a command without files changes one entry, and looks at few

Images and layered images are the entries of a workspace, each store with names of its own.  A
command that uses no files looks at the options and at the entries that it names, and then is
refused or puts in one entry (`LocalTo`).  So it does the same in two workspaces that agree on these
(`Workspace.AgreeOn`), and commands that name different entries can change places.
-/

namespace RasterScript

/-! ## 1. Entries -/

/-- The name of an entry of one of the two stores. -/
inductive EntryName
  | image (name : String)
  | layered (name : String)
  deriving DecidableEq, Repr

/-- What a command puts into a workspace, if it puts anything in. -/
inductive Change
  | nothing
  | image (name : String) (g : Grid)
  | layered (name : String) (img : LayeredImage)

def Change.name? : Change → Option EntryName
  | .nothing => none
  | .image name _ => some (.image name)
  | .layered name _ => some (.layered name)

def Change.value? : Change → Option (Grid ⊕ LayeredImage)
  | .nothing => none
  | .image _ g => some (.inl g)
  | .layered _ img => some (.inr img)

namespace Workspace

/-- The image or layered image of that name. -/
def find? (ws : Workspace) : EntryName → Option (Grid ⊕ LayeredImage)
  | .image name => (ws.images.find? name).map .inl
  | .layered name => (ws.layered.find? name).map .inr

def apply (ws : Workspace) : Change → Workspace
  | .nothing => ws
  | .image name g => ws.setImage name g
  | .layered name img => ws.setLayered name img

@[simp] theorem options_apply (ws : Workspace) (ch : Change) :
    (ws.apply ch).options = ws.options := by
  cases ch <;> rfl

theorem find?_apply (ws : Workspace) (ch : Change) (n : EntryName) :
    (ws.apply ch).find? n = if ch.name? = some n then ch.value? else ws.find? n := by
  cases ch with
  | nothing => rfl
  | image name g =>
    cases n with
    | image key =>
      show ((ws.images.insert name g).find? key).map _ = _
      rw [Table.find?_insert]
      by_cases h : key = name
      · simp [Change.name?, Change.value?, h]
      · simp [Change.name?, find?, h, Ne.symm h]
    | layered key => simp [Change.name?, apply, setImage, find?]
  | layered name img =>
    cases n with
    | image key => simp [Change.name?, apply, setLayered, find?]
    | layered key =>
      show ((ws.layered.insert name img).find? key).map _ = _
      rw [Table.find?_insert]
      by_cases h : key = name
      · simp [Change.name?, Change.value?, h]
      · simp [Change.name?, find?, h, Ne.symm h]

theorem images_eq_of_find? {ws ws' : Workspace} {name : String}
    (h : ws'.find? (.image name) = ws.find? (.image name)) :
    ws'.images.find? name = ws.images.find? name :=
  Option.map_injective (fun _ _ => Sum.inl.inj) h

theorem layered_eq_of_find? {ws ws' : Workspace} {name : String}
    (h : ws'.find? (.layered name) = ws.find? (.layered name)) :
    ws'.layered.find? name = ws.layered.find? name :=
  Option.map_injective (fun _ _ => Sum.inr.inj) h

/-- A workspace is its options and its entries. -/
theorem ext_find? {ws ws' : Workspace} (ho : ws.options = ws'.options)
    (h : ∀ n, ws.find? n = ws'.find? n) : ws = ws' := by
  have himages : ws.images = ws'.images :=
    Table.ext_find? fun name => images_eq_of_find? (h (.image name))
  have hlayered : ws.layered = ws'.layered :=
    Table.ext_find? fun name => layered_eq_of_find? (h (.layered name))
  cases ws
  cases ws'
  simp_all

/-- Changes of entries of different names can be made in either order. -/
theorem apply_comm {ch ch' : Change} (h : ∀ n, ch.name? = some n → ch'.name? ≠ some n)
    (ws : Workspace) : (ws.apply ch).apply ch' = (ws.apply ch').apply ch := by
  apply ext_find?
  · simp
  · intro n
    rw [find?_apply, find?_apply, find?_apply, find?_apply]
    by_cases hn : ch.name? = some n
    · rw [if_neg (h n hn), if_pos hn, if_pos hn]
    · rw [if_neg hn, if_neg hn]

/-! ## 2. Workspaces that agree -/

/-- The workspaces have the same options, and the same entries under these names. -/
structure AgreeOn (names : List EntryName) (ws ws' : Workspace) : Prop where
  options_eq : ws'.options = ws.options
  find?_eq : ∀ n ∈ names, ws'.find? n = ws.find? n

namespace AgreeOn

variable {names : List EntryName} {ws ws' : Workspace} {name : String}

theorem refl (names : List EntryName) (ws : Workspace) : ws.AgreeOn names ws :=
  ⟨rfl, fun _ _ => rfl⟩

theorem mono {names' : List EntryName} (h : ws.AgreeOn names ws')
    (hnames : ∀ n ∈ names', n ∈ names) : ws.AgreeOn names' ws' :=
  ⟨h.options_eq, fun n hn => h.find?_eq n (hnames n hn)⟩

/-- A change of an entry of another name. -/
theorem apply {ch : Change} (h : ∀ n, ch.name? = some n → n ∉ names) :
    ws.AgreeOn names (ws.apply ch) where
  options_eq := options_apply ws ch
  find?_eq := by
    intro n hn
    rw [find?_apply, if_neg fun hname => h n hname hn]

theorem image_eq (h : ws.AgreeOn names ws') (hn : .image name ∈ names) :
    ws'.image name = ws.image name := by
  unfold image
  rw [images_eq_of_find? (h.find?_eq _ hn)]

theorem layeredImage_eq (h : ws.AgreeOn names ws') (hn : .layered name ∈ names) :
    ws'.layeredImage name = ws.layeredImage name := by
  unfold layeredImage
  rw [layered_eq_of_find? (h.find?_eq _ hn)]

theorem checkFreshImage_eq (h : ws.AgreeOn names ws') (hn : .image name ∈ names) :
    ws'.checkFreshImage name = ws.checkFreshImage name := by
  unfold checkFreshImage Table.contains
  rw [images_eq_of_find? (h.find?_eq _ hn)]

theorem checkFreshLayered_eq (h : ws.AgreeOn names ws') (hn : .layered name ∈ names) :
    ws'.checkFreshLayered name = ws.checkFreshLayered name := by
  unfold checkFreshLayered Table.contains
  rw [layered_eq_of_find? (h.find?_eq _ hn)]

theorem checkSides_eq (h : ws.AgreeOn names ws') : ws'.checkSides = ws.checkSides := by
  funext width height
  unfold checkSides
  rw [h.options_eq]

end AgreeOn

end Workspace

/-! ## 3. Actions that put in one entry -/

/-- The end of an action that was refused, or that makes a change. -/
def settle (r : Except Refusal Change) (w : World) : Except Failure Unit × World :=
  match r with
  | .ok ch => (.ok (), { w with workspace := w.workspace.apply ch })
  | .error c => (.error (.refused c), w)

/-- In worlds that agree on these names the action is refused for the same cause or makes the same
change, and it changes no other entry than `entry`. -/
def LocalTo (names : List EntryName) (entry : EntryName) (a : Action Unit) : Prop :=
  ∀ w w', w.workspace.AgreeOn names w'.workspace →
    ∃ r : Except Refusal Change, outcome a w = settle r w ∧ outcome a w' = settle r w' ∧
      ∀ ch n, r = .ok ch → ch.name? = some n → n = entry

section

variable {names : List EntryName} {entry : EntryName} {a : Action Unit} {α : Type}

theorem outcome_accept_bind (r : Except Refusal α) (g : α → Action Unit) (w : World) :
    outcome (Action.accept r >>= g) w =
      match r with
      | .ok x => outcome (g x) w
      | .error c => (.error (.refused c), w) := by
  cases r <;> rfl

theorem localTo_accept_bind (r : Except Refusal Unit) (ha : LocalTo names entry a) :
    LocalTo names entry (Action.accept r >>= fun _ => a) := by
  intro w w' h
  cases r with
  | ok u => exact ha w w' h
  | error c =>
    refine ⟨.error c, rfl, rfl, ?_⟩
    intro ch n hr
    cases hr

/-- The change, or the refusal, is found out from what the workspaces agree on. -/
theorem localTo_of_request (request : Workspace → Except Refusal Change)
    {g : Workspace → Action Unit}
    (hg : ∀ w, outcome (g w.workspace) w = settle (request w.workspace) w)
    (hrequest : ∀ ws ws' : Workspace, ws.AgreeOn names ws' → request ws' = request ws)
    (hname : ∀ ws ch n, request ws = .ok ch → ch.name? = some n → n = entry) :
    LocalTo names entry (Action.workspace >>= g) := by
  intro w w' h
  refine ⟨request w.workspace, hg w, ?_, fun ch n hr hn => hname _ ch n hr hn⟩
  show outcome (g w'.workspace) w' = _
  rw [hg w', hrequest _ _ h]

/-- Something is looked up, and what comes of it is put in as `entry`. -/
theorem localTo_edit (look : Workspace → Except Refusal α) (f : α → Except Refusal α)
    (put : α → Change)
    (hlook : ∀ ws ws' : Workspace, ws.AgreeOn names ws' → look ws' = look ws)
    (hput : ∀ x, (put x).name? = some entry) :
    LocalTo names entry (Action.workspace >>= fun ws =>
      Action.accept (look ws >>= fun x => f x >>= fun y => pure (ws.apply (put y))) >>=
        Action.setWorkspace) := by
  refine localTo_of_request (fun ws => look ws >>= fun x => f x >>= fun y => pure (put y)) ?_ ?_ ?_
  · intro w
    cases look w.workspace with
    | error c => rfl
    | ok x =>
      show outcome (Action.accept (f x >>= _) >>= _) w = settle (f x >>= _) w
      cases f x <;> rfl
  · intro ws ws' h
    rw [hlook ws ws' h]
  · intro ws ch n hr hn
    obtain ⟨x, -, hr⟩ := bind_eq_ok.1 hr
    obtain ⟨y, -, hr⟩ := bind_eq_ok.1 hr
    rw [pure_eq_ok.1 hr] at hn
    exact Option.some.inj (hn.symm.trans (hput y))

/-- Something is looked at, and nothing is put in. -/
theorem localTo_look (look : Workspace → Except Refusal α) {g : Workspace → Action Unit}
    (hg : ∀ w, outcome (g w.workspace) w =
      settle ((look w.workspace).map fun _ => Change.nothing) w)
    (hlook : ∀ ws ws' : Workspace, ws.AgreeOn names ws' → look ws' = look ws) :
    LocalTo names entry (Action.workspace >>= g) := by
  refine localTo_of_request (fun ws => (look ws).map fun _ => .nothing) hg ?_ ?_
  · intro ws ws' h
    rw [hlook ws ws' h]
  · intro ws ch n hr hn
    cases hl : look ws with
    | error c =>
      rw [hl] at hr
      cases hr
    | ok x =>
      rw [hl] at hr
      cases hr
      cases hn

end

/-! ## 4. Edits of an entry -/

theorem localTo_editImage (name : String) (f : Grid → Except Refusal Grid) :
    LocalTo [.image name] (.image name) (Action.workspace >>= fun ws =>
      Action.accept (ws.image name >>= fun g => f g >>= fun g' => pure (ws.setImage name g')) >>=
        Action.setWorkspace) :=
  localTo_edit (·.image name) f (.image name) (fun _ _ h => h.image_eq List.mem_cons_self)
    fun _ => rfl

theorem localTo_editLayered (name : String) (f : LayeredImage → Except Refusal LayeredImage) :
    LocalTo [.layered name] (.layered name) (Action.workspace >>= fun ws =>
      Action.accept (ws.edit name f) >>= Action.setWorkspace) :=
  localTo_edit (·.layeredImage name) f (.layered name)
    (fun _ _ h => h.layeredImage_eq List.mem_cons_self) fun _ => rfl

/-- The entry that a target is, or is a part of. -/
def Target.entry : Target → EntryName
  | .image name => .image name
  | .layer stack _ => .layered stack

theorem localTo_setPixel (target : Target) (x y : Nat) (v : Pixel) :
    LocalTo [target.entry] target.entry (Action.workspace >>= fun ws =>
      Action.accept (ws.setPixel x y v target) >>= Action.setWorkspace) := by
  cases target with
  | image name => exact localTo_editImage name (·.setPixel x y v)
  | layer stack name => exact localTo_editLayered stack (·.setPixel name x y v)

theorem localTo_mutate (target : Target) (m : Mutator) :
    LocalTo [target.entry] target.entry (Action.workspace >>= fun ws =>
      Action.accept (ws.mutate m target) >>= Action.setWorkspace) := by
  cases target with
  | image name => exact localTo_editImage name fun g => .ok (m.apply g)
  | layer stack name => exact localTo_editLayered stack (·.mutate name m)

/-! ## 5. New entries -/

theorem accept_bind_accept {α β : Type} (r : Except Refusal α) (f : α → Except Refusal β) :
    (FileAction.accept r >>= fun x => FileAction.accept (f x)) = FileAction.accept (r >>= f) := by
  cases r <;> rfl

theorem onFiles_accept {α : Type} (r : Except Refusal α) :
    Action.onFiles (FileAction.accept r) = Action.accept r := by
  cases r <;> rfl

def ImageSource.usesFiles : ImageSource → Bool
  | .file _ => true
  | _ => false

/-- The entries that an image is made from. -/
def ImageSource.entries : ImageSource → List EntryName
  | .copy name => [.image name]
  | _ => []

def LayeredSource.usesFiles : LayeredSource → Bool
  | .blank _ _ => false
  | .directory _ => true

/-- The name is looked up, what it will stand for is made, and that is put in if the name is still
free and the sides are within bounds. -/
theorem localTo_add {α : Type} {names : List EntryName} {entry : EntryName}
    (fresh : Workspace → Except Refusal Unit) (make : Workspace → Except Refusal α)
    (sides : Workspace → α → Except Refusal Unit) (put : α → Change)
    {build : Workspace → FileAction α} {add : Workspace → α → Except Refusal Workspace}
    (hbuild : ∀ ws, build ws = FileAction.accept (make ws))
    (hadd : ∀ ws x, add ws x =
      fresh ws >>= fun _ => sides ws x >>= fun _ => pure (ws.apply (put x)))
    (hlook : ∀ ws ws' : Workspace, ws.AgreeOn names ws' →
      fresh ws' = fresh ws ∧ make ws' = make ws ∧ sides ws' = sides ws)
    (hput : ∀ x, (put x).name? = some entry) :
    LocalTo names entry (Action.workspace >>= fun ws => Action.accept (fresh ws) >>= fun _ =>
      Action.onFiles (build ws) >>= fun x => Action.accept (add ws x) >>= Action.setWorkspace) := by
  refine localTo_of_request (fun ws => fresh ws >>= fun _ => make ws >>= fun x =>
    sides ws x >>= fun _ => pure (put x)) ?_ ?_ ?_
  · intro w
    rw [hbuild, onFiles_accept, outcome_accept_bind]
    cases hf : fresh w.workspace with
    | error c => rfl
    | ok u =>
      show outcome (_ >>= _) w = _
      rw [outcome_accept_bind]
      cases make w.workspace with
      | error c => rfl
      | ok x =>
        -- the name is as free as it was
        show outcome (Action.accept (add w.workspace x) >>= _) w = _
        rw [hadd, hf]
        show outcome (Action.accept (sides w.workspace x >>= _) >>= _) w =
          settle (sides w.workspace x >>= _) w
        cases sides w.workspace x <;> rfl
  · intro ws ws' h
    obtain ⟨hfresh, hmake, hsides⟩ := hlook ws ws' h
    rw [hfresh, hmake, hsides]
  · intro ws ch n hr hn
    obtain ⟨_, -, hr⟩ := bind_eq_ok.1 hr
    obtain ⟨x, -, hr⟩ := bind_eq_ok.1 hr
    obtain ⟨_, -, hr⟩ := bind_eq_ok.1 hr
    rw [pure_eq_ok.1 hr] at hn
    exact Option.some.inj (hn.symm.trans (hput x))

section Formats

variable [PictureCodec]

/-- Without files an image comes from what the workspace has, in a way that only its options and
the source's entries decide. -/
theorem ImageSource.build_eq_accept {source : ImageSource} (hs : source.usesFiles = false) :
    ∃ make : Workspace → Except Refusal Grid,
      (∀ ws, source.build ws = FileAction.accept (make ws)) ∧
        ∀ ws ws' : Workspace, ws.AgreeOn source.entries ws' → make ws' = make ws := by
  cases source with
  | checkerboard size count first second =>
    let side := min (count.sqrt * size) (wordSize - 1)
    refine ⟨fun ws => ws.checkSides side side >>= fun _ =>
      Grid.checkerboard size count first second, fun ws => accept_bind_accept _ _, ?_⟩
    intro ws ws' h
    simp only [h.checkSides_eq]
  | empty => exact ⟨fun _ => .ok .single, fun _ => rfl, fun _ _ _ => rfl⟩
  | transparent width height =>
    refine ⟨fun ws => ws.checkSides width height >>= fun _ => Grid.transparent width height,
      fun ws => accept_bind_accept _ _, ?_⟩
    intro ws ws' h
    simp only [h.checkSides_eq]
  | copy name =>
    refine ⟨fun ws => ws.image name, fun _ => rfl, ?_⟩
    intro ws ws' h
    exact h.image_eq List.mem_cons_self
  | file path => cases hs

variable [ManifestFormat]

theorem LayeredSource.build_eq_accept {source : LayeredSource} (hs : source.usesFiles = false) :
    ∃ make : Workspace → Except Refusal LayeredImage,
      (∀ ws, source.build ws = FileAction.accept (make ws)) ∧
        ∀ ws ws' : Workspace, ws.AgreeOn [] ws' → make ws' = make ws := by
  cases source with
  | blank width height =>
    refine ⟨fun ws => ws.checkSides width height >>= fun _ => LayeredImage.new width height,
      fun ws => accept_bind_accept _ _, ?_⟩
    intro ws ws' h
    simp only [h.checkSides_eq]
  | directory path => cases hs

theorem localTo_createImage {name : String} {source : ImageSource}
    (hs : source.usesFiles = false) :
    LocalTo (.image name :: source.entries) (.image name)
      (Command.createImage name source).perform := by
  -- the source is looked at as well as the name that is to be free
  obtain ⟨make, hbuild, hmake⟩ := source.build_eq_accept hs
  refine localTo_add (·.checkFreshImage name) make (fun ws g => ws.checkSides g.width g.height)
    (.image name) hbuild (fun _ _ => rfl) ?_ fun _ => rfl
  intro ws ws' h
  have hsource : ws.AgreeOn source.entries ws' := h.mono fun n hn => List.mem_cons_of_mem _ hn
  refine ⟨h.checkFreshImage_eq List.mem_cons_self, hmake ws ws' hsource, ?_⟩
  simp only [h.checkSides_eq]

theorem localTo_createLayeredImage {name : String} {source : LayeredSource}
    (hs : source.usesFiles = false) :
    LocalTo [.layered name] (.layered name) (Command.createLayeredImage name source).perform := by
  obtain ⟨make, hbuild, hmake⟩ := source.build_eq_accept hs
  refine localTo_add (·.checkFreshLayered name) make
    (fun ws img => ws.checkSides img.width img.height) (.layered name) hbuild (fun _ _ => rfl) ?_
    fun _ => rfl
  intro ws ws' h
  have hnone : ws.AgreeOn [] ws' := h.mono fun n hn => (List.not_mem_nil hn).elim
  refine ⟨h.checkFreshLayered_eq List.mem_cons_self, hmake ws ws' hnone, ?_⟩
  simp only [h.checkSides_eq]

end Formats

/-! ## 6. Commands -/

namespace Command

/-- Whether carrying the command out reads or writes a file. -/
def usesFiles : Command → Bool
  | .createImage _ source => source.usesFiles
  | .createLayeredImage _ source => source.usesFiles
  | .save .. | .saveLayered .. | .saveAsImage .. | .addImageAsLayer .. => true
  | _ => false

/-- The entry that the command is aimed at: the one it makes, changes, writes or looks at. -/
def entry : Command → EntryName
  | .createImage name _ => .image name
  | .createLayeredImage name _ => .layered name
  | .updateColor target _ _ _ => target.entry
  | .applyMutator target _ => target.entry
  | .save target _ _ => target.entry
  | .saveLayered name _ => .layered name
  | .saveAsImage name _ _ => .layered name
  | .load name => .layered name
  | .setCurrentLayer name _ => .layered name
  | .addLayer name _ => .layered name
  | .copyLayer name _ _ => .layered name
  | .addImageAsLayer name _ _ => .layered name
  | .moveLayer name _ _ => .layered name
  | .removeLayer name _ => .layered name
  | .updateVisibility name _ _ => .layered name

/-- The entries that the command names. -/
def entries (c : Command) : List EntryName :=
  match c with
  | .createImage _ source => c.entry :: source.entries
  | _ => [c.entry]

theorem entry_mem_entries (c : Command) : c.entry ∈ c.entries := by
  cases c <;> exact List.mem_cons_self

section Formats

variable [PictureCodec] [ManifestFormat]

theorem localTo_perform {c : Command} (hc : c.usesFiles = false) :
    LocalTo c.entries c.entry c.perform := by
  cases c with
  | createImage name source => exact localTo_createImage hc
  | createLayeredImage name source => exact localTo_createLayeredImage hc
  | updateColor target x y color => exact localTo_setPixel target x y color
  | applyMutator target kind => exact localTo_mutate target kind.mutator
  | save target format path => cases hc
  | saveLayered name directory => cases hc
  | saveAsImage name format path => cases hc
  | load name =>
    refine localTo_look (·.layeredImage name) ?_ ?_
    · intro w
      rw [outcome_accept_bind]
      cases w.workspace.layeredImage name <;> rfl
    · intro ws ws' h
      exact h.layeredImage_eq List.mem_cons_self
  | setCurrentLayer name layer =>
    refine localTo_look (fun ws => ws.layeredImage name >>= (·.layer layer)) ?_ ?_
    · intro w
      rw [outcome_accept_bind]
      cases w.workspace.layeredImage name with
      | error c => rfl
      | ok img =>
        show outcome (_ >>= _) w = settle ((img.layer layer).map _) w
        rw [outcome_accept_bind]
        cases img.layer layer <;> rfl
    · intro ws ws' h
      simp only [h.layeredImage_eq List.mem_cons_self]
  | addLayer name layer => exact localTo_editLayered name (·.addLayer layer)
  | copyLayer name layer source => exact localTo_editLayered name (·.copyLayer layer source)
  | addImageAsLayer name layer path => cases hc
  | moveLayer name layer index => exact localTo_editLayered name (·.moveLayer layer index)
  | removeLayer name layer => exact localTo_editLayered name (·.removeLayer layer)
  | updateVisibility name layer visible =>
    exact localTo_editLayered name (·.setVisibility layer visible)

theorem localTo_execute {c : Command} (hc : c.usesFiles = false) :
    LocalTo c.entries c.entry c.execute :=
  localTo_accept_bind c.check (localTo_perform hc)

end Formats

end Command

/-! ## 7. What follows -/

namespace LocalTo

variable {names names' : List EntryName} {entry entry' : EntryName} {a b : Action Unit}
  {w w' : World}

theorem settled (ha : LocalTo names entry a) (w : World) :
    ∃ r : Except Refusal Change, outcome a w = settle r w ∧
      ∀ ch n, r = .ok ch → ch.name? = some n → n = entry := by
  obtain ⟨r, hr, -, hname⟩ := ha w w (.refl names w.workspace)
  exact ⟨r, hr, hname⟩

/-- Every other entry stays as it is, and so do the options and the files. -/
theorem frame (ha : LocalTo names entry a) (w : World) :
    (outcome a w).2.files = w.files ∧
    (outcome a w).2.workspace.options = w.workspace.options ∧
    ∀ n, n ≠ entry → (outcome a w).2.workspace.find? n = w.workspace.find? n := by
  obtain ⟨r, hr, hname⟩ := ha.settled w
  rw [hr]
  cases r with
  | error c => exact ⟨rfl, rfl, fun _ _ => rfl⟩
  | ok ch =>
    refine ⟨rfl, Workspace.options_apply _ _, ?_⟩
    intro n hn
    show (w.workspace.apply ch).find? n = _
    rw [Workspace.find?_apply, if_neg fun h => hn (hname ch n rfl h)]

/-- Worlds that agree give the same result, and the same entry. -/
theorem same (ha : LocalTo names entry a) (hentry : entry ∈ names)
    (h : w.workspace.AgreeOn names w'.workspace) :
    (outcome a w').1 = (outcome a w).1 ∧
    (outcome a w').2.workspace.find? entry = (outcome a w).2.workspace.find? entry := by
  obtain ⟨r, hr, hr', -⟩ := ha w w' h
  rw [hr, hr']
  cases r with
  | error c => exact ⟨rfl, h.find?_eq entry hentry⟩
  | ok ch =>
    refine ⟨rfl, ?_⟩
    show (w'.workspace.apply ch).find? entry = (w.workspace.apply ch).find? entry
    rw [Workspace.find?_apply, Workspace.find?_apply, h.find?_eq entry hentry]

/-- An action that names none of these entries leaves a world that agrees on them. -/
theorem agreeOn (ha : LocalTo names entry a) (hentry : entry ∉ names') (w : World) :
    w.workspace.AgreeOn names' (outcome a w).2.workspace where
  options_eq := (ha.frame w).2.1
  find?_eq := by
    intro n hn
    refine (ha.frame w).2.2 n ?_
    rintro rfl
    exact hentry hn

theorem comm (ha : LocalTo names entry a) (hb : LocalTo names' entry' b)
    (hentry : entry ∈ names) (hentry' : entry' ∈ names') (hdisjoint : ∀ n ∈ names, n ∉ names')
    (w : World) :
    (outcome b (outcome a w).2).1 = (outcome b w).1 ∧
    (outcome a (outcome b w).2).1 = (outcome a w).1 ∧
    (outcome b (outcome a w).2).2 = (outcome a (outcome b w).2).2 := by
  have hna : entry ∉ names' := hdisjoint entry hentry
  have hnb : entry' ∉ names := fun h => hdisjoint entry' h hentry'
  have hagree : w.workspace.AgreeOn names' (outcome a w).2.workspace := ha.agreeOn hna w
  have hagree' : w.workspace.AgreeOn names (outcome b w).2.workspace := hb.agreeOn hnb w
  refine ⟨(hb.same hentry' hagree).1, (ha.same hentry hagree').1, ?_⟩
  -- what the one asks for, it asks for before and after the other
  obtain ⟨r, hr, hr₂, hname⟩ := ha w _ hagree'
  obtain ⟨q, hq, hq₂, hname'⟩ := hb w _ hagree
  rw [hq₂, hr₂, hr, hq]
  cases r with
  | error c => cases q <;> rfl
  | ok ch =>
    cases q with
    | error c => rfl
    | ok ch' =>
      have hne : ∀ n, ch.name? = some n → ch'.name? ≠ some n := by
        intro n hn hn'
        obtain rfl := hname ch n rfl hn
        exact hna (hname' ch' n rfl hn' ▸ hentry')
      exact congrArg (World.mk · w.files) (Workspace.apply_comm hne w.workspace)

end LocalTo

namespace Command

section Formats

variable [PictureCodec] [ManifestFormat]

/-- A command that uses no files changes no other entry than its own.  How it ends, and what its
entry then is, only the entries that it names and the options decide.  So two such commands that
name different entries can change places. -/
theorem named_entries_decide :
    (∀ c : Command, c.usesFiles = false → ∀ w : World,
      (outcome c.execute w).2.files = w.files ∧
      (outcome c.execute w).2.workspace.options = w.workspace.options ∧
      (∀ n, n ≠ c.entry → (outcome c.execute w).2.workspace.find? n = w.workspace.find? n) ∧
      ∀ w' : World, w.workspace.AgreeOn c.entries w'.workspace →
        (outcome c.execute w').1 = (outcome c.execute w).1 ∧
        (outcome c.execute w').2.workspace.find? c.entry =
          (outcome c.execute w).2.workspace.find? c.entry) ∧
    ∀ c d : Command, c.usesFiles = false → d.usesFiles = false →
      (∀ n ∈ c.entries, n ∉ d.entries) → ∀ w : World,
        (outcome d.execute (outcome c.execute w).2).1 = (outcome d.execute w).1 ∧
        (outcome c.execute (outcome d.execute w).2).1 = (outcome c.execute w).1 ∧
        (outcome d.execute (outcome c.execute w).2).2 =
          (outcome c.execute (outcome d.execute w).2).2 := by
  refine ⟨fun c hc w => ?_, fun c d hc hd hdisjoint w => ?_⟩
  · have hlocal := localTo_execute hc
    obtain ⟨hfiles, hoptions, hothers⟩ := hlocal.frame w
    exact ⟨hfiles, hoptions, hothers, fun w' h => hlocal.same c.entry_mem_entries h⟩
  · exact (localTo_execute hc).comm (localTo_execute hd) c.entry_mem_entries d.entry_mem_entries
      hdisjoint w

end Formats

/-- An image and a layered image of one name are two entries. -/
theorem named_entries_decide_shared_name :
    let ws := ((Workspace.new .standard).setImage "a" .single).setLayered "a" (.blank .single)
    let w : World := ⟨ws, ⟨∅, [], none⟩⟩
    let wider : LayeredImage := .blank ⟨2, 1, by decide, by decide, by decide⟩
    let w' : World := ⟨ws.apply (.layered "a" wider), w.files⟩
    let c : Command := .createImage "b" (.copy "a")
    let d : Command := .addLayer "a" "sky"
    (outcome c.execute w).2.workspace.images.find? "b" = some .single ∧
    (outcome c.execute w').2.workspace.find? (.image "b") =
      (outcome c.execute w).2.workspace.find? (.image "b") ∧
    (outcome d.execute w).2.workspace.find? (.image "a") = w.workspace.find? (.image "a") ∧
    (outcome d.execute (outcome c.execute w).2).2 =
      (outcome c.execute (outcome d.execute w).2).2 := by
  intro ws w wider w' c d
  obtain ⟨hone, htwo⟩ := named_entries_decide
  have hagree : ws.AgreeOn c.entries (ws.apply (.layered "a" wider)) := by
    apply Workspace.AgreeOn.apply
    intro n hn
    cases hn
    decide
  obtain ⟨-, -, -, hc⟩ := hone c rfl w
  obtain ⟨-, -, hd, -⟩ := hone d rfl w
  obtain ⟨-, -, hcomm⟩ := htwo c d rfl rfl (by decide) w
  exact ⟨rfl, (hc w' hagree).2, hd (.image "a") (by decide), hcomm⟩

end Command

end RasterScript
