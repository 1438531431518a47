import RasterScript.Proofs.Grid.Cells
import RasterScript.Proofs.Grid.Scanning
import RasterScript.Proofs.Grid.Walking

/-!
# Requests — asking a picture by column and row

Whatever is asked of a picture at a column and a row is granted inside the picture and refused
outside it (`Grid.grant_eq`), and a refused request changes nothing.  Scans and requests tell the
cells of a picture (`Grid.readings_eq`, `Grid.pixel_eq`), so that each of them sees a new colour,
and sees it at one place (`Grid.Recolored`).  The main statement, `Grid.scans_and_requests_agree`,
says which places there are, what they show, and what any number of requests leaves of a picture.
-/

namespace RasterScript

namespace Grid

variable {g : Grid}

/-! ## 1. Reading a picture -/

/-- A scan of the picture that has not begun. -/
def scan (g : Grid) : Scan g.extent := .start g.extent

/-- What a node tells: its column, its row and its colour. -/
def reading (g : Grid) (p : Position g.extent) : Nat × Nat × Pixel :=
  (p.x, p.y, Node.color g (some p))

/-- What the node in column `x` and row `y` tells. -/
def readingAt (g : Grid) (x y : Nat) : Except Refusal (Nat × Nat × Pixel) :=
  (Position.ofCoordinates g.extent x y).map g.reading

/-- What the first `n` nodes of a scan tell. -/
def readings (g : Grid) (n : Nat) : List (Nat × Nat × Pixel) :=
  (g.scan.take n).1.map g.reading

theorem readingAt_eq (g : Grid) (x y : Nat) :
    g.readingAt x y = (g.pixel x y).map fun v => (x, y, v) := by
  by_cases hin : x < g.width ∧ y < g.height
  · obtain ⟨p, rfl, rfl⟩ := exists_position hin.1 hin.2
    rw [readingAt, pixel, Position.ofCoordinates_coordinates]
    rfl
  · rw [readingAt, pixel, Position.ofCoordinates_of_outside hin]
    rfl

/-- A scan tells the cells row by row. -/
theorem readings_eq (g : Grid) (n : Nat) : g.readings n =
    (g.extent.rowMajor.take n).map fun c => (c.1, c.2, (g.at? c.1 c.2).getD .transparent) := by
  have hplaces := (g.scan.take_eq n).1
  rw [scan, Scan.ahead_start] at hplaces
  rw [← hplaces, List.map_map, readings, scan]
  -- only places come up in a scan, so no cell is missing
  refine List.map_congr_left fun p _ => ?_
  show _ = (p.x, p.y, (g.at? p.x p.y).getD .transparent)
  rw [at?_position]
  rfl

/-! ## 2. Another colour at one place -/

/-- `g'` is `g` but for the colour `v` in column `x` and row `y`, whichever way the two are read. -/
structure Recolored (g : Grid) (x y : Nat) (v : Pixel) (g' : Grid) : Prop where
  extent_eq : g'.extent = g.extent
  pixel_eq : ∀ x' y', g'.pixel x' y' = if x' = x ∧ y' = y then .ok v else g.pixel x' y'
  readingAt_eq : ∀ x' y',
    g'.readingAt x' y' = if x' = x ∧ y' = y then .ok (x, y, v) else g.readingAt x' y'
  readings_eq : ∀ n, g'.readings n = (g.readings n).set (y * g.width + x) (x, y, v)

theorem pixel_set (p : Position g.extent) (v : Pixel) (x y : Nat) :
    (g.set p v).pixel x y = if x = p.x ∧ y = p.y then .ok v else g.pixel x y := by
  rw [pixel_eq, pixel_eq, at?_set]
  split <;> rfl

theorem readingAt_set (p : Position g.extent) (v : Pixel) (x y : Nat) :
    (g.set p v).readingAt x y =
      if x = p.x ∧ y = p.y then .ok (p.x, p.y, v) else g.readingAt x y := by
  rw [readingAt_eq, readingAt_eq, pixel_set]
  split
  · rename_i h
    rw [h.1, h.2]
    rfl
  · rfl

/-- In a scan one entry changes, the one at the index of the place. -/
theorem readings_set (p : Position g.extent) (v : Pixel) (n : Nat) :
    (g.set p v).readings n = (g.readings n).set p.index (p.x, p.y, v) := by
  rw [readings_eq, readings_eq, extent_set]
  apply List.ext_getElem?
  intro k
  rw [List.getElem?_set, List.length_map, List.getElem?_map, List.getElem?_map]
  by_cases hk : p.index = k
  · -- the scan has come to the place, or it ends before it
    subst hk
    rw [if_pos rfl]
    split
    · rename_i hin
      have hplace : (g.extent.rowMajor.take n)[p.index]? = some p.coordinates := by
        rw [List.getElem?_take_of_lt (Nat.lt_of_lt_of_le hin (List.length_take_le _ _))]
        exact Extent.getElem?_rowMajor p
      rw [hplace, Option.map_some, Position.coordinates, at?_set, if_pos ⟨rfl, rfl⟩]
      rfl
    · rename_i hout
      rw [List.getElem?_eq_none (Nat.le_of_not_lt hout)]
      rfl
  · -- no other entry is of this place, because the places in the list are all different
    rw [if_neg hk]
    refine Option.map_congr fun c hc => ?_
    rw [List.getElem?_take, Option.ite_none_right_eq_some] at hc
    have hother : ¬ (c.1 = p.x ∧ c.2 = p.y) := by
      rintro ⟨hx, hy⟩
      obtain rfl : c = p.coordinates := Prod.ext hx hy
      exact hk (Extent.getElem?_rowMajor_eq_some.1 hc.2).symm
    rw [at?_set, if_neg hother]

theorem recolored_set (p : Position g.extent) (v : Pixel) : g.Recolored p.x p.y v (g.set p v) where
  extent_eq := rfl
  pixel_eq := pixel_set p v
  readingAt_eq := readingAt_set p v
  readings_eq := readings_set p v

/-! ## 3. Requests -/

/-- What can be asked of a place. -/
inductive Wish
  /-- The node there, to be read. -/
  | node
  /-- A brush there, to paint with. -/
  | brush
  | pixel
  | recolor (color : Pixel)
  deriving DecidableEq, Repr

/-- A column, a row, and what is asked of the place there. -/
structure Request where
  x : Nat
  y : Nat
  wish : Wish
  deriving DecidableEq, Repr

def Wish.color? : Wish → Option Pixel
  | .recolor v => some v
  | _ => none

/-- The colour that a request asks for in column `x` and row `y`, if any. -/
def Request.colorAt? (x y : Nat) (r : Request) : Option Pixel :=
  if x = r.x ∧ y = r.y then r.wish.color? else none

/-- The picture that a request leaves, if it is not refused: reading leaves it as it is, and a brush
carries it along. -/
def grant (g : Grid) : Request → Except Refusal Grid
  | ⟨x, y, .node⟩ => (g.readingAt x y).map fun _ => g
  | ⟨x, y, .brush⟩ => (Brush.putDown g x y).map Brush.grid
  | ⟨x, y, .pixel⟩ => (g.pixel x y).map fun _ => g
  | ⟨x, y, .recolor v⟩ => g.setPixel x y v

/-- The picture after a request, the old one if the request is refused. -/
def asked (g : Grid) (r : Request) : Grid :=
  match g.grant r with
  | .ok g' => g'
  | .error _ => g

def askedAll (g : Grid) (requests : List Request) : Grid :=
  requests.foldl asked g

theorem grant_eq (g : Grid) (r : Request) : g.grant r =
    (Position.ofCoordinates g.extent r.x r.y).map fun p => r.wish.color?.elim g (g.set p) := by
  obtain ⟨x, y, wish⟩ := r
  cases wish with
  | node => rw [grant, readingAt]; cases Position.ofCoordinates g.extent x y <;> rfl
  | brush => rw [grant, Brush.putDown]; cases Position.ofCoordinates g.extent x y <;> rfl
  | pixel => rw [grant, pixel]; cases Position.ofCoordinates g.extent x y <;> rfl
  | recolor v => rw [grant, setPixel]; rfl

theorem grant_of_outside {r : Request} (h : ¬ (r.x < g.width ∧ r.y < g.height)) :
    g.grant r = .error (.outsidePicture r.x r.y g.width g.height) := by
  rw [grant_eq, Position.ofCoordinates_of_outside h]
  rfl

theorem exists_grant {r : Request} (h : r.x < g.width ∧ r.y < g.height) :
    ∃ p : Position g.extent, p.x = r.x ∧ p.y = r.y ∧
      g.grant r = .ok (r.wish.color?.elim g (g.set p)) := by
  obtain ⟨p, hx, hy⟩ := exists_position h.1 h.2
  refine ⟨p, hx, hy, ?_⟩
  rw [grant_eq, ← hx, ← hy, Position.ofCoordinates_coordinates]
  rfl

theorem asked_of_outside {r : Request} (h : ¬ (r.x < g.width ∧ r.y < g.height)) :
    g.asked r = g := by
  rw [asked, grant_of_outside h]

/-- After a request each cell is the colour that was asked for there, if one was, and else the old
one. -/
theorem at?_asked (g : Grid) (r : Request) (x y : Nat) :
    (g.asked r).at? x y = (g.at? x y).map fun old => (r.colorAt? x y).getD old := by
  by_cases hin : r.x < g.width ∧ r.y < g.height
  · obtain ⟨p, hx, hy, hgrant⟩ := exists_grant hin
    rw [asked, hgrant, Request.colorAt?, ← hx, ← hy]
    cases r.wish.color? with
    | none => simp
    | some v =>
      show (g.set p v).at? x y = _
      rw [at?_set]
      split
      · rename_i hplace
        rw [hplace.1, hplace.2, at?_position]
        rfl
      · simp
  · rw [asked_of_outside hin, Request.colorAt?]
    split
    · -- nothing stands at a place outside, so there is nothing to get another colour
      rename_i hplace
      rw [← hplace.1, ← hplace.2] at hin
      rw [at?_eq_none.2 hin]
      rfl
    · simp

theorem at?_askedAll (g : Grid) (requests : List Request) (x y : Nat) :
    (g.askedAll requests).at? x y =
      (g.at? x y).map fun old => (requests.filterMap (·.colorAt? x y)).getLast?.getD old := by
  induction requests generalizing g with
  | nil => simp [askedAll]
  | cons r rest ih =>
    have hrest := ih (g.asked r)
    rw [at?_asked, Option.map_map] at hrest
    refine hrest.trans (Option.map_congr fun old _ => ?_)
    -- the colour that the rest asks for last stands, or the one of this request under it
    rw [Function.comp_apply, List.filterMap_cons]
    cases r.colorAt? x y with
    | none => rfl
    | some v => rw [List.getLast?_cons]; rfl

/-! ## 4. Scans and requests -/

/-- A scan yields the places of a picture row by row, each place once, in as many calls as there are
places, and after that nothing, in however many calls; at any time it knows how many are left.  The
nodes that it yields show what requests for them are answered with.  Another colour inside is seen
in every way of reading the picture, and at its own place only.  Requests outside, of whatever kind,
are refused and change nothing: so at any place stands the colour that was last asked for there, or
the old one. -/
theorem scans_and_requests_agree (g : Grid) :
    (∀ k, k < g.width * g.height → ∃ p, (g.scan.after k).next? = some (p, g.scan.after (k + 1)) ∧
      p.coordinates = (k % g.width, k / g.width) ∧
      g.pixel (k % g.width) (k / g.width) = .ok (Node.color g (some p))) ∧
    (∀ k, g.width * g.height ≤ k → (g.scan.after k).next? = none) ∧
    (∀ n, (g.scan.take n).1.length = min n (g.width * g.height) ∧
      (g.scan.take n).1.map Position.coordinates = g.extent.rowMajor.take n ∧
      (g.scan.take n).2 = g.scan.after n ∧
      (g.scan.after n).remaining = g.width * g.height - min n (g.width * g.height)) ∧
    (∀ n, g.width * g.height ≤ n → ∀ p, (g.scan.take n).1.count p = 1) ∧
    (∀ x y, g.readingAt x y = (g.pixel x y).map fun v => (x, y, v)) ∧
    (∀ x y v, x < g.width → y < g.height →
      ∃ g', g.setPixel x y v = .ok g' ∧ g.Recolored x y v g') ∧
    (∀ r : Request, r.x < g.width ∧ r.y < g.height →
      ∃ g', g.grant r = .ok g' ∧ (r.wish.color? = none → g' = g)) ∧
    (∀ r : Request, ¬ (r.x < g.width ∧ r.y < g.height) →
      g.grant r = .error (.outsidePicture r.x r.y g.width g.height) ∧ g.asked r = g) ∧
    ∀ requests x y, (g.askedAll requests).at? x y =
      (g.at? x y).map fun old => (requests.filterMap (·.colorAt? x y)).getLast?.getD old := by
  refine ⟨fun k hk => ?_, fun k hk => ?_, fun n => ⟨g.scan.length_take n, (g.scan.take_eq n).1,
    (g.scan.take_eq n).2, ?_⟩, fun n hn p => Scan.count_take hn p, readingAt_eq g,
    fun x y v hx hy => ?_, fun r hr => ?_,
    fun r hr => ⟨grant_of_outside hr, asked_of_outside hr⟩, at?_askedAll g⟩
  · refine ⟨.ofIndex g.extent k hk, (Scan.next?_after k).trans (dif_pos hk), rfl, ?_⟩
    exact pixel_eq_ok.2 (at?_position (Position.ofIndex g.extent k hk))
  · exact (Scan.next?_after k).trans (dif_neg (Nat.not_lt.2 hk))
  · rw [Scan.remaining_after]
    show g.width * g.height - n = _
    omega
  · obtain ⟨p, rfl, rfl⟩ := exists_position hx hy
    refine ⟨g.set p v, ?_, recolored_set p v⟩
    rw [setPixel, Position.ofCoordinates_coordinates]
    rfl
  · obtain ⟨p, -, -, hgrant⟩ := exists_grant hr
    refine ⟨_, hgrant, fun hnone => ?_⟩
    rw [hnone]
    rfl

/-- Three columns and two rows, each pixel as red as there are pixels before it. -/
def numbered : Grid :=
  build Node.whiteBoard.extent fun p => .solid p.index.toUInt8 0 0

/-- The third call leads to the end of the upper row, the seventh and the tenth to nothing.  White
paint at the end of that row is seen there and not at the place that follows in a scan.  Beyond the
end of the row, at an index that this next place has too, paint is refused. -/
theorem scans_and_requests_agree_numbered :
    (∃ p, (numbered.scan.after 2).next? = some (p, numbered.scan.after 3) ∧ p.coordinates = (2, 0) ∧
      numbered.pixel 2 0 = .ok (Node.color numbered (some p))) ∧
    (numbered.scan.after 6).next? = none ∧ (numbered.scan.after 9).next? = none ∧
    (∀ p, (numbered.scan.take 7).1.count p = 1) ∧
    (∃ g', numbered.setPixel 2 0 .white = .ok g' ∧ g'.pixel 2 0 = .ok .white ∧
      g'.pixel 0 1 = numbered.pixel 0 1 ∧
      g'.readings 6 = (numbered.readings 6).set 2 (2, 0, .white)) ∧
    (∃ g', numbered.grant ⟨0, 1, .brush⟩ = .ok g' ∧ g' = numbered) ∧
    numbered.asked ⟨3, 0, .recolor .white⟩ = numbered := by
  obtain ⟨hyields, hends, -, honce, -, hrecolors, hgrants, hrefuses, -⟩ :=
    scans_and_requests_agree numbered
  obtain ⟨g', hset, hrecolored⟩ := hrecolors 2 0 .white (by decide) (by decide)
  obtain ⟨same, hgrant, hsame⟩ := hgrants ⟨0, 1, .brush⟩ (by decide)
  exact ⟨hyields 2 (by decide), hends 6 (by decide), hends 9 (by decide), honce 7 (by decide),
    ⟨g', hset, hrecolored.pixel_eq 2 0, hrecolored.pixel_eq 0 1, hrecolored.readings_eq 6⟩,
    ⟨same, hgrant, hsame rfl⟩, (hrefuses ⟨3, 0, .recolor .white⟩ (by decide)).2⟩

end Grid

end RasterScript
