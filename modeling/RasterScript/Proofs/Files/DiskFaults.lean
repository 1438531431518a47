import RasterScript.Files.Disk
import RasterScript.Proofs.Outcome

/-!
# DiskFaults — what is left by operations that a disk may fail

What succeeds on a disk that can fail has done what it does on one that cannot.  What fails has left
everything as it was, or a file with a proper part of what it was to hold (`Disk.Cuts`,
`Disk.Stops`).
-/

namespace RasterScript

theorem Shortage.failure_ne_refused (s : Shortage) {ofMaker : DiskFault → Failure}
    (h : ∀ fault c, ofMaker fault ≠ .refused c) (c : Refusal) : s.failure ofMaker ≠ .refused c := by
  unfold failure
  split
  · exact h s.fault c
  · nofun

namespace Disk

variable {disk : Disk} {request : DiskRequest} {p : Path} {fs fs' : FileStore} {f : Failure}

theorem yields_allow_bind {α : Type} {g : Unit → FileAction α} {x : α} :
    Yields (disk.allow request p >>= g) fs x fs' ↔
      disk.fault? request fs p = none ∧ Yields (g ()) fs x fs' := by
  unfold allow
  rw [bind_assoc, yields_get_bind]
  cases disk.fault? request fs p with
  | none => simp
  | some fault => simp

theorem fails_allow_bind {α : Type} {g : Unit → FileAction α} :
    Fails (disk.allow request p >>= g) fs f fs' ↔
      (∃ fault, disk.fault? request fs p = some fault ∧ f = .file (.disk fault) ∧ fs' = fs) ∨
        disk.fault? request fs p = none ∧ Fails (g ()) fs f fs' := by
  unfold allow
  rw [bind_assoc, fails_get_bind]
  cases disk.fault? request fs p with
  | none => simp
  | some fault => simp

/-- The disk has room for all that is written. -/
def Roomy (disk : Disk) : Prop := ∀ fs p, disk.shortage? fs p = none

theorem roomy_sound : sound.Roomy := fun _ _ => rfl

/-- The disk has a shortage in which `content` ends early. -/
def Cuts (disk : Disk) (s : Shortage) (content : Bytes) : Prop :=
  s.room < content.length ∧ ∃ fs p, disk.shortage? fs p = some s

/-- Why a file has not been written whole: it was not opened, or only the first `n` bytes of it have
been written. -/
def Stops (disk : Disk) (content : Bytes) (complaint : Shortage → Failure) (f : Failure) :
    Option Nat → Prop
  | none => ∃ fault, f = .file fault
  | some n => ∃ s, disk.Cuts s content ∧ s.room = n ∧ f = complaint s

/-- A failure that is no refusal, and a fault of the files if there is room for all of them. -/
def Blamed (disk : Disk) (f : Failure) : Prop :=
  (∀ c, f ≠ .refused c) ∧ (disk.Roomy → ∃ fault, f = .file fault)

theorem blamed_file (disk : Disk) (fault : FileFault) : disk.Blamed (.file fault) :=
  ⟨nofun, fun _ => ⟨fault, rfl⟩⟩

variable {content : Bytes} {complaint : Shortage → Failure}

theorem blamed_of_shortage {s : Shortage} (hshort : disk.shortage? fs p = some s)
    (hcomplaint : ∀ c, complaint s ≠ .refused c) : disk.Blamed (complaint s) := by
  refine ⟨hcomplaint, ?_⟩
  intro hroomy
  rw [hroomy fs p] at hshort
  cases hshort

theorem write_of_yields (h : Yields (disk.write p content complaint) fs () fs') :
    fs.write p content = .ok fs' := by
  unfold write at h
  obtain ⟨-, h⟩ := yields_allow_bind.1 h
  rw [yields_get_bind] at h
  cases hshort : disk.shortage? fs p with
  | none =>
    rw [hshort] at h
    exact yields_change.1 h
  | some s =>
    rw [hshort] at h
    obtain ⟨_, fs₁, hwrite, hrest⟩ := yields_bind.1 h
    by_cases hlt : s.room < content.length
    · rw [if_pos hlt] at hrest
      exact absurd hrest yields_throw
    · -- a shortage with room for all of the file is none
      rw [if_neg hlt] at hrest
      obtain ⟨-, rfl⟩ := yields_pure.1 hrest
      rw [yields_change, List.take_of_length_le (Nat.not_lt.1 hlt)] at hwrite
      exact hwrite

/-- A file that is not written whole is not opened, or has been cut. -/
theorem cases_of_fails_write (h : Fails (disk.write p content complaint) fs f fs') :
    (∃ fault, f = .file fault) ∧ fs' = fs ∨
      ∃ s, disk.Cuts s content ∧ f = complaint s ∧ fs.write p (content.take s.room) = .ok fs' := by
  unfold write at h
  rcases fails_allow_bind.1 h with ⟨fault, -, hf, hfs⟩ | ⟨-, h⟩
  · exact .inl ⟨⟨_, hf⟩, hfs⟩
  rw [fails_get_bind] at h
  cases hshort : disk.shortage? fs p with
  | none =>
    rw [hshort] at h
    obtain ⟨⟨fault, -, hf⟩, hfs⟩ := fails_change.1 h
    exact .inl ⟨⟨fault, hf⟩, hfs⟩
  | some s =>
    rw [hshort] at h
    -- the part itself may have nowhere to go
    rcases fails_bind.1 h with hwrite | ⟨_, fs₁, hwrite, hrest⟩
    · obtain ⟨⟨fault, -, hf⟩, hfs⟩ := fails_change.1 hwrite
      exact .inl ⟨⟨fault, hf⟩, hfs⟩
    · by_cases hlt : s.room < content.length
      · rw [if_pos hlt] at hrest
        obtain ⟨hf, rfl⟩ := fails_throw.1 hrest
        exact .inr ⟨s, ⟨hlt, fs, p, hshort⟩, hf, yields_change.1 hwrite⟩
      · rw [if_neg hlt] at hrest
        exact absurd hrest fails_pure

end Disk

end RasterScript
