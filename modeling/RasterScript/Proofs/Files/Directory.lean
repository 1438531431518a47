import RasterScript.Proofs.Files.Paths
import RasterScript.Proofs.Outcome

/-!
# Directory — the files of one directory

`DirectoryAt fs dir loc` says that the path `dir` leads to a directory, which is at `loc`.  The path
of a plain name seen from it leads to the entry of that name at `loc`, unless no file can be called
so (`Nameable`); so reading, writing and removing files there are lookups and changes at one
location each, and stay so while no directory disappears (`KeepsDirectories`).
-/

namespace RasterScript

namespace FileStore

/-! ## 1. Entries -/

theorem entry?_of_ne {fs : FileStore} {loc : Location} (h : loc ≠ []) :
    fs.entry? loc = fs.entries.find? loc := by
  unfold entry?
  rw [if_neg h]

theorem entry?_put (fs : FileStore) {loc : Location} (h : loc ≠ []) (e : Entry) (loc' : Location) :
    entry? (fs.put loc e) loc' = if loc' = loc then some e else fs.entry? loc' := by
  by_cases hroot : loc' = []
  · rw [if_neg (hroot ▸ Ne.symm h), hroot]
    rfl
  · rw [entry?_of_ne hroot, entry?_of_ne hroot]
    exact Table.find?_insert fs.entries loc loc' e

/-- The store after a file, which held `content`, was removed. -/
def unlink (fs : FileStore) (loc : Location) (content : Bytes) : FileStore :=
  { fs with
    entries := fs.entries.erase loc
    opened := fs.opened.map (OpenFile.afterRemoval loc content) }

theorem entry?_unlink (fs : FileStore) {loc : Location} (h : loc ≠ []) (content : Bytes)
    (loc' : Location) :
    entry? (fs.unlink loc content) loc' = if loc' = loc then none else fs.entry? loc' := by
  by_cases hroot : loc' = []
  · rw [if_neg (hroot ▸ Ne.symm h), hroot]
    rfl
  · rw [entry?_of_ne hroot, entry?_of_ne hroot]
    exact Table.find?_erase fs.entries loc loc'

/-! ## 2. Following paths in a store that changes -/

/-- Every directory is still there. -/
def KeepsDirectories (fs fs' : FileStore) : Prop :=
  fs'.workingDirectory = fs.workingDirectory ∧
    ∀ loc, fs.entry? loc = some .directory → fs'.entry? loc = some .directory

theorem keepsDirectories_put {fs : FileStore} {loc : Location} {e : Entry} (hne : loc ≠ [])
    (h : fs.entry? loc ≠ some .directory) : KeepsDirectories fs (fs.put loc e) := by
  refine ⟨rfl, ?_⟩
  intro loc' hd
  rw [entry?_put fs hne, if_neg]
  · exact hd
  · rintro rfl
    exact h hd

theorem keepsDirectories_unlink {fs : FileStore} {loc : Location} {content : Bytes} (hne : loc ≠ [])
    (h : fs.entry? loc ≠ some .directory) : KeepsDirectories fs (fs.unlink loc content) := by
  refine ⟨rfl, ?_⟩
  intro loc' hd
  rw [entry?_unlink fs hne, if_neg]
  · exact hd
  · rintro rfl
    exact h hd

theorem follow_cons_directory {fs : FileStore} {loc : Location}
    (h : fs.entry? loc = some .directory) (segment : String) (rest : List String) :
    fs.follow loc (segment :: rest) =
      if segment = "." then fs.follow loc rest
      else if segment = ".." then fs.follow loc.dropLast rest
      else if maxNameLength < segment.utf8ByteSize then .error .nameTooLong
      else fs.follow (loc ++ [segment]) rest := by
  rw [follow, h]

/-- Only directories are passed through. -/
theorem directory_of_follow_cons {fs : FileStore} {loc loc' : Location} {segment : String}
    {rest : List String} (h : fs.follow loc (segment :: rest) = .ok loc') :
    fs.entry? loc = some .directory := by
  rw [follow] at h
  cases he : fs.entry? loc with
  | none =>
    rw [he] at h
    cases h
  | some e =>
    cases e with
    | directory => rfl
    | file content =>
      rw [he] at h
      cases h

theorem follow_append (fs : FileStore) (loc : Location) (xs ys : List String) :
    fs.follow loc (xs ++ ys) = (fs.follow loc xs >>= fun loc' => fs.follow loc' ys) := by
  induction xs generalizing loc with
  | nil => rfl
  | cons x xs ih =>
    rw [List.cons_append, follow, follow]
    cases fs.entry? loc with
    | none => rfl
    | some e =>
      cases e with
      | file content => rfl
      | directory =>
        dsimp only
        by_cases hdot : x = "."
        · rw [if_pos hdot, if_pos hdot, ih]
        · rw [if_neg hdot, if_neg hdot]
          by_cases hup : x = ".."
          · rw [if_pos hup, if_pos hup, ih]
          · rw [if_neg hup, if_neg hup]
            by_cases hlong : maxNameLength < x.utf8ByteSize
            · rw [if_pos hlong, if_pos hlong]
              rfl
            · rw [if_neg hlong, if_neg hlong, ih]

theorem follow_mono {fs fs' : FileStore} (hk : KeepsDirectories fs fs') {loc loc' : Location}
    {segments : List String} (h : fs.follow loc segments = .ok loc') :
    fs'.follow loc segments = .ok loc' := by
  -- every location on the way is a directory, and stays one
  induction segments generalizing loc with
  | nil => exact h
  | cons s rest ih =>
    have hd := directory_of_follow_cons h
    rw [follow_cons_directory hd] at h
    rw [follow_cons_directory (hk.2 loc hd)]
    by_cases hdot : s = "."
    · rw [if_pos hdot] at h ⊢
      exact ih h
    · rw [if_neg hdot] at h ⊢
      by_cases hup : s = ".."
      · rw [if_pos hup] at h ⊢
        exact ih h
      · rw [if_neg hup] at h ⊢
        by_cases hlong : maxNameLength < s.utf8ByteSize
        · rw [if_pos hlong] at h
          cases h
        · rw [if_neg hlong] at h ⊢
          exact ih h

/-- Dots at the end of a way lead nowhere else. -/
theorem follow_dots {fs : FileStore} {loc loc' : Location} {dots : List String}
    (hdots : ∀ s ∈ dots, s = ".") (h : fs.follow loc dots = .ok loc') : loc' = loc := by
  induction dots with
  | nil =>
    cases h
    rfl
  | cons s rest ih =>
    obtain ⟨rfl, hrest⟩ := List.forall_mem_cons.1 hdots
    rw [follow_cons_directory (directory_of_follow_cons h), if_pos rfl] at h
    exact ih hrest h

/-! ## 3. Paths that lead somewhere -/

theorem locate_eq_ok {fs : FileStore} {p : Path} {loc : Location} : fs.locate p = .ok loc ↔
    p.text ≠ "" ∧ '\x00' ∉ p.text.toList ∧ p.text.utf8ByteSize < pathLengthLimit ∧
      fs.follow (if p.isAbsolute then [] else fs.workingDirectory) p.segments = .ok loc := by
  unfold locate
  by_cases hempty : p.text = ""
  · simp [hempty]
  · rw [if_neg hempty]
    by_cases hnul : '\x00' ∈ p.text.toList
    · simp [hnul]
    · rw [if_neg (by simpa using hnul)]
      by_cases hlong : pathLengthLimit ≤ p.text.utf8ByteSize
      · rw [if_pos hlong]
        simp [Nat.not_lt.2 hlong]
      · rw [if_neg hlong]
        simp [hempty, hnul, Nat.not_le.1 hlong]

theorem locate_mono {fs fs' : FileStore} (hk : KeepsDirectories fs fs') {p : Path} {loc : Location}
    (h : fs.locate p = .ok loc) : fs'.locate p = .ok loc := by
  obtain ⟨hempty, hnul, hlong, hfollow⟩ := locate_eq_ok.1 h
  refine locate_eq_ok.2 ⟨hempty, hnul, hlong, ?_⟩
  rw [hk.1]
  exact follow_mono hk hfollow

theorem lookup_eq_ok {fs : FileStore} {p : Path} {loc : Location} {found : Option Entry} :
    fs.lookup p = .ok (loc, found) ↔ fs.locate p = .ok loc ∧ fs.entry? loc = found ∧
      ∀ content, found = some (.file content) → p.endsInSlash = false := by
  unfold lookup
  rw [bind_eq_ok]
  constructor
  · rintro ⟨loc', hloc, h⟩
    split at h
    · rename_i content he
      split at h
      · cases h
      · rename_i hs
        cases h
        exact ⟨hloc, he, fun _ _ => eq_false_of_ne_true hs⟩
    · rename_i other hother
      cases h
      exact ⟨hloc, rfl, fun content he => absurd he (hother content)⟩
  · rintro ⟨hloc, rfl, hs⟩
    refine ⟨loc, hloc, ?_⟩
    split
    · rename_i content he
      rw [hs content he, he]
      rfl
    · rfl

theorem find?_eq_some {fs : FileStore} {p : Path} {e : Entry} :
    fs.find? p = some e ↔ ∃ loc, fs.lookup p = .ok (loc, some e) := by
  unfold find?
  cases h : fs.lookup p with
  | error fault => simp
  | ok result =>
    obtain ⟨loc, found⟩ := result
    constructor
    · rintro rfl
      exact ⟨loc, rfl⟩
    · rintro ⟨loc', hl⟩
      cases hl
      rfl

/-- The path `dir` leads to the directory at `loc`. -/
structure DirectoryAt (fs : FileStore) (dir : Path) (loc : Location) : Prop where
  located : fs.locate dir = .ok loc
  directory : fs.entry? loc = some .directory

theorem DirectoryAt.mono {fs fs' : FileStore} {dir : Path} {loc : Location}
    (h : DirectoryAt fs dir loc) (hk : KeepsDirectories fs fs') : DirectoryAt fs' dir loc :=
  ⟨locate_mono hk h.located, hk.2 loc h.directory⟩

theorem isDirectory_iff {fs : FileStore} {dir : Path} :
    fs.isDirectory dir = true ↔ ∃ loc, DirectoryAt fs dir loc := by
  unfold isDirectory
  rw [beq_iff_eq, find?_eq_some]
  constructor
  · rintro ⟨loc, h⟩
    obtain ⟨hl, hd, -⟩ := lookup_eq_ok.1 h
    exact ⟨loc, hl, hd⟩
  · rintro ⟨loc, hl, hd⟩
    exact ⟨loc, lookup_eq_ok.2 ⟨hl, hd, fun _ h => by cases h⟩⟩

theorem isFile_of_read {fs : FileStore} {p : Path} {content : Bytes}
    (h : fs.read p = .ok content) : fs.isFile p = true := by
  unfold read at h
  obtain ⟨⟨loc, found⟩, hl, h⟩ := bind_eq_ok.1 h
  unfold isFile find?
  rw [hl]
  rcases found with _ | _ | held
  · cases h
  · cases h
  · rfl

/-! ## 4. Files inside a directory -/

/-- A file in `dir` can be called so, as far as the lengths and the letters of names go. -/
def Nameable (dir : Path) (name : String) : Prop :=
  '\x00' ∉ name.toList ∧ (dir.join name).text.utf8ByteSize < pathLengthLimit ∧
    name.utf8ByteSize ≤ maxNameLength

instance (dir : Path) (name : String) : Decidable (Nameable dir name) :=
  inferInstanceAs (Decidable (_ ∧ _))

variable {fs fs' : FileStore} {dir : Path} {loc : Location} {name : String}

theorem DirectoryAt.text_ne (h : DirectoryAt fs dir loc) : dir.text ≠ "" :=
  (locate_eq_ok.1 h.located).1

theorem follow_child (hd : fs.entry? loc = some .directory) (hn : isPlainFileName name = true) :
    fs.follow loc [name] = if maxNameLength < name.utf8ByteSize then .error .nameTooLong
      else .ok (loc ++ [name]) := by
  obtain ⟨-, hdot, hup, -⟩ := isPlainFileName_iff.1 hn
  rw [follow_cons_directory hd, if_neg hdot, if_neg hup]
  rfl

theorem nul_mem_join (h : DirectoryAt fs dir loc) (hn : isPlainFileName name = true) :
    '\x00' ∈ (dir.join name).text.toList ↔ '\x00' ∈ name.toList := by
  obtain ⟨-, hnul, -, -⟩ := locate_eq_ok.1 h.located
  obtain ⟨front, hjoin, hfront⟩ := Path.text_join h.text_ne hn
  have hfree : '\x00' ∉ front := by
    intro hm
    apply hnul
    rcases hfront with ht | ⟨ht, -⟩
    · rw [ht]
      exact List.mem_append_left _ hm
    · rw [ht]
      exact hm
  rw [hjoin, List.mem_append, List.mem_cons]
  constructor
  · rintro (hm | hm | hm)
    · exact absurd hm hfree
    · cases hm
    · exact hm
  · intro hm
    exact .inr (.inr hm)

theorem follow_join (h : DirectoryAt fs dir loc) (hn : isPlainFileName name = true) :
    fs.follow (if (dir.join name).isAbsolute then [] else fs.workingDirectory)
      (dir.join name).segments = fs.follow loc [name] := by
  obtain ⟨-, -, -, hfollow⟩ := locate_eq_ok.1 h.located
  rw [Path.isAbsolute_join h.text_ne hn, Path.segments_join h.text_ne hn, follow_append, hfollow]
  rfl

theorem locate_join (h : DirectoryAt fs dir loc) (hn : isPlainFileName name = true)
    (hname : Nameable dir name) : fs.locate (dir.join name) = .ok (loc ++ [name]) := by
  obtain ⟨hnul, hlong, hlength⟩ := hname
  obtain ⟨front, hjoin, -⟩ := Path.text_join h.text_ne hn
  refine locate_eq_ok.2 ⟨?_, ?_, hlong, ?_⟩
  · rw [← toList_ne_nil_iff, hjoin]
    simp
  · exact fun hm => hnul ((nul_mem_join h hn).1 hm)
  · rw [follow_join h hn, follow_child h.directory hn, if_neg (Nat.not_lt.2 hlength)]

theorem locate_join_error (h : DirectoryAt fs dir loc) (hn : isPlainFileName name = true)
    (hname : ¬ Nameable dir name) :
    ∃ fault, fs.locate (dir.join name) = .error fault ∧ fault ≠ .notFound := by
  obtain ⟨front, hjoin, -⟩ := Path.text_join h.text_ne hn
  have hne : (dir.join name).text ≠ "" := by
    rw [← toList_ne_nil_iff, hjoin]
    simp
  unfold locate
  rw [if_neg hne]
  by_cases hnul : '\x00' ∈ (dir.join name).text.toList
  · rw [if_pos (by simpa using hnul)]
    exact ⟨.invalidName, rfl, by decide⟩
  · rw [if_neg (by simpa using hnul)]
    by_cases hlong : pathLengthLimit ≤ (dir.join name).text.utf8ByteSize
    · rw [if_pos hlong]
      exact ⟨.nameTooLong, rfl, by decide⟩
    · have hlength : maxNameLength < name.utf8ByteSize := by
        apply Nat.not_le.1
        intro hle
        exact hname ⟨fun hm => hnul ((nul_mem_join h hn).2 hm), Nat.not_le.1 hlong, hle⟩
      -- only the length of the name itself is left
      rw [if_neg hlong, follow_join h hn, follow_child h.directory hn, if_pos hlength]
      exact ⟨.nameTooLong, rfl, by decide⟩

theorem lookup_join (h : DirectoryAt fs dir loc) (hn : isPlainFileName name = true)
    (hname : Nameable dir name) :
    fs.lookup (dir.join name) = .ok (loc ++ [name], fs.entry? (loc ++ [name])) :=
  lookup_eq_ok.2 ⟨locate_join h hn hname, rfl, fun _ _ => Path.endsInSlash_join h.text_ne hn⟩

theorem lookup_join_error (h : DirectoryAt fs dir loc) (hn : isPlainFileName name = true)
    (hname : ¬ Nameable dir name) :
    ∃ fault, fs.lookup (dir.join name) = .error fault ∧ fault ≠ .notFound := by
  obtain ⟨fault, hl, hne⟩ := locate_join_error h hn hname
  refine ⟨fault, ?_, hne⟩
  unfold lookup
  rw [hl]
  rfl

theorem find?_join (h : DirectoryAt fs dir loc) (hn : isPlainFileName name = true) :
    fs.find? (dir.join name) = if Nameable dir name then fs.entry? (loc ++ [name]) else none := by
  unfold find?
  by_cases hname : Nameable dir name
  · rw [if_pos hname, lookup_join h hn hname]
  · obtain ⟨fault, hl, -⟩ := lookup_join_error h hn hname
    rw [if_neg hname, hl]

theorem isFile_join (h : DirectoryAt fs dir loc) (hn : isPlainFileName name = true) :
    fs.isFile (dir.join name) = true ↔
      Nameable dir name ∧ ∃ content, fs.entry? (loc ++ [name]) = some (.file content) := by
  unfold isFile
  rw [find?_join h hn]
  by_cases hname : Nameable dir name
  · rw [if_pos hname]
    cases fs.entry? (loc ++ [name]) with
    | none => simp
    | some e => cases e <;> simp [hname]
  · rw [if_neg hname]
    simp [hname]

theorem pathExists_join (h : DirectoryAt fs dir loc) (hn : isPlainFileName name = true) :
    fs.pathExists (dir.join name) = true ↔
      Nameable dir name ∧ fs.entry? (loc ++ [name]) ≠ none := by
  unfold pathExists
  rw [find?_join h hn]
  by_cases hname : Nameable dir name
  · rw [if_pos hname]
    simp [hname, Option.isSome_iff_ne_none]
  · rw [if_neg hname]
    simp [hname]

theorem read_join (h : DirectoryAt fs dir loc) (hn : isPlainFileName name = true)
    {content : Bytes} : fs.read (dir.join name) = .ok content ↔
      Nameable dir name ∧ fs.entry? (loc ++ [name]) = some (.file content) := by
  unfold read
  by_cases hname : Nameable dir name
  · rw [lookup_join h hn hname]
    cases fs.entry? (loc ++ [name]) with
    | none => simp [bind, Except.bind]
    | some e => cases e <;> simp [bind, Except.bind, hname]
  · obtain ⟨fault, hl, -⟩ := lookup_join_error h hn hname
    rw [hl]
    simp [bind, Except.bind, hname]

theorem write_join (h : DirectoryAt fs dir loc) (hn : isPlainFileName name = true)
    {content : Bytes} : fs.write (dir.join name) content = .ok fs' ↔
      Nameable dir name ∧ fs.entry? (loc ++ [name]) ≠ some .directory ∧
        fs' = fs.put (loc ++ [name]) (.file content) := by
  have hs := Path.endsInSlash_join h.text_ne hn
  unfold write
  by_cases hname : Nameable dir name
  · rw [lookup_join h hn hname]
    cases fs.entry? (loc ++ [name]) with
    | none => simp [bind, Except.bind, hname, hs, eq_comm]
    | some e => cases e <;> simp [bind, Except.bind, hname, hs, eq_comm]
  · obtain ⟨fault, hl, -⟩ := lookup_join_error h hn hname
    rw [hl]
    simp [bind, Except.bind, hname]

theorem removeFile_join (h : DirectoryAt fs dir loc) (hn : isPlainFileName name = true) :
    fs.removeFile (dir.join name) = .ok fs' ↔ Nameable dir name ∧
      ∃ content, fs.entry? (loc ++ [name]) = some (.file content) ∧
        fs' = fs.unlink (loc ++ [name]) content := by
  unfold removeFile
  by_cases hname : Nameable dir name
  · rw [lookup_join h hn hname]
    cases fs.entry? (loc ++ [name]) with
    | none => simp [bind, Except.bind]
    | some e => cases e <;> simp [bind, Except.bind, hname, unlink, eq_comm]
  · obtain ⟨fault, hl, -⟩ := lookup_join_error h hn hname
    rw [hl]
    simp [bind, Except.bind, hname]

theorem removeFile_join_notFound (h : DirectoryAt fs dir loc) (hn : isPlainFileName name = true) :
    fs.removeFile (dir.join name) = .error .notFound ↔
      Nameable dir name ∧ fs.entry? (loc ++ [name]) = none := by
  unfold removeFile
  by_cases hname : Nameable dir name
  · rw [lookup_join h hn hname]
    cases fs.entry? (loc ++ [name]) with
    | none => simp [bind, Except.bind, hname]
    | some e => cases e <;> simp [bind, Except.bind]
  · obtain ⟨fault, hl, hne⟩ := lookup_join_error h hn hname
    rw [hl]
    simp [bind, Except.bind, hname, hne]

/-! ## 5. The directory of a file inside it -/

theorem utf8ByteSize_mono {s t : String} (h : s.toList <+: t.toList) :
    s.utf8ByteSize ≤ t.utf8ByteSize := by
  obtain ⟨rest, hrest⟩ := h
  have ht : t = s ++ String.ofList rest := by
    apply toList_eq_iff.1
    rw [String.toList_append, String.toList_ofList, hrest]
  rw [ht, String.utf8ByteSize_append]
  exact Nat.le_add_right _ _

/-- Whatever can be looked for inside a directory has a directory to be in. -/
theorem isDirectory_parent (h : DirectoryAt fs dir loc) (hn : isPlainFileName name = true) :
    ∃ q, (dir.join name).parent? = some q ∧ (q.text = "" ∨ fs.isDirectory q = true) := by
  obtain ⟨q, hq, hfront, dots, hsegments, hdots⟩ := Path.parent?_join h.text_ne hn
  refine ⟨q, hq, ?_⟩
  by_cases hempty : q.text = ""
  · exact .inl hempty
  · obtain ⟨-, hnul, hlong, hfollow⟩ := locate_eq_ok.1 h.located
    have habs : q.isAbsolute = dir.isAbsolute := by
      obtain ⟨rest, hrest⟩ := hfront
      unfold Path.isAbsolute
      rw [← hrest]
      cases hq : q.text.toList with
      | nil => exact absurd hq (toList_ne_nil_iff.2 hempty)
      | cons c cs => rfl
    rw [hsegments, follow_append, bind_eq_ok] at hfollow
    obtain ⟨loc', hway, hrest⟩ := hfollow
    -- the parent and `dir` differ by dots only, so they lead to one location
    obtain rfl := follow_dots hdots hrest
    refine .inr (isDirectory_iff.2 ⟨loc, locate_eq_ok.2 ⟨hempty, ?_, ?_, ?_⟩, h.directory⟩)
    · exact fun hm => hnul (hfront.subset hm)
    · exact Nat.lt_of_le_of_lt (utf8ByteSize_mono hfront) hlong
    · rw [habs]
      exact hway

end FileStore

end RasterScript
