import Mathlib.Tactic.Ring
import Qdevice.ForStd.Runs
import Qdevice.Native.PrPollArray

/-! # Room in the array for `PR_Poll`

Both arrays have room for `allocated` items as long as the second `realloc` never fails when the
arrays grow.  When it fails as they shrink, the second array stays larger than it has to be. -/

namespace Qdevice

/-! ### Runs -/

/-- A call, with what `realloc` does in it. -/
inductive PrPollArrayOp where
  | clean
  | add (alloc : PrPollArrayAlloc)
  | gc (alloc : PrPollArrayAlloc)

/-- One call. -/
def prPollArrayStep (pollArray : PrPollArray) : PrPollArrayOp → Option PrPollArray
  | .clean => some (prPollArrayClean pollArray)
  | .add alloc => some (prPollArrayAdd pollArray alloc).2
  | .gc alloc => some (prPollArrayGc pollArray alloc)

/-- The calls one after the other, from `pr_poll_array_init` on. -/
def prPollArrayMachine (userDataSize : Nat) : Runs.Machine PrPollArray PrPollArrayOp where
  init := prPollArrayInit userDataSize
  step := prPollArrayStep

namespace PrPollArray

/-- Both arrays have room for `allocated` items, and there are not more items. -/
structure HasRoom (pollArray : PrPollArray) : Prop where
  items : pollArray.items ≤ pollArray.allocated
  array : pollArray.allocated ≤ pollArray.array
  userDataArray : pollArray.userDataSize * pollArray.allocated ≤ pollArray.userDataArray

/-- A descriptor is inside of `array`. -/
def InArray (pollArray : PrPollArray) (pfds : Int) : Prop := 0 ≤ pfds ∧ pfds < pollArray.array

/-- All bytes of the user data of an item are inside of `user_data_array`. -/
def InUserDataArray (pollArray : PrPollArray) (userData : Int) : Prop :=
  0 ≤ userData ∧ userData + pollArray.userDataSize ≤ pollArray.userDataArray

/-- There is room, and what is handed out next, or looked up at `pos`, is inside of both arrays. -/
structure Contained (pollArray : PrPollArray) (pos : Int) : Prop where
  room : pollArray.HasRoom
  added : ∀ alloc slot pollArray', prPollArrayAdd pollArray alloc = (some slot, pollArray') →
    pollArray'.InArray slot.pfds ∧ pollArray'.InUserDataArray slot.userData
  got : ∀ pfds, prPollArrayGet pollArray pos = some pfds → pollArray.InArray pfds
  gotUserData : ∀ userData, prPollArrayGetUserData pollArray pos = some userData →
    pollArray.InUserDataArray userData

/-- There is memory for the first of the arrays, but not for the second, which is too small. -/
def userDataFails (pollArray : PrPollArray) (alloc : PrPollArrayAlloc) (newArraySize : Nat) : Bool :=
  alloc.array ∧ alloc.userDataArray = false ∧
    pollArray.userDataArray < pollArray.userDataSize * newArraySize

/-- The arrays are to grow, and only the first of them does. -/
def growthFails (pollArray : PrPollArray) : PrPollArrayOp → Bool
  | .add alloc =>
    pollArray.allocated ≤ pollArray.items ∧
      pollArray.userDataFails alloc (pollArray.allocated * 2 + 1)
  | .clean | .gc _ => false

/-! ### One call -/

variable {pollArray pollArray' : PrPollArray}

/-- A slot that is not beyond `allocated` is inside of both arrays. -/
theorem HasRoom.inside (h : pollArray.HasRoom) (pos : Nat) (hpos : pos < pollArray.allocated) :
    pollArray.InArray pos ∧ pollArray.InUserDataArray ↑(pos * pollArray.userDataSize) := by
  have harray := h.array
  have hbytes : pos * pollArray.userDataSize + pollArray.userDataSize ≤
      pollArray.userDataArray := by
    calc pos * pollArray.userDataSize + pollArray.userDataSize
        = pollArray.userDataSize * (pos + 1) := by ring
      _ ≤ pollArray.userDataSize * pollArray.allocated := Nat.mul_le_mul_left _ hpos
      _ ≤ pollArray.userDataArray := h.userDataArray
  exact ⟨⟨by omega, by omega⟩, ⟨by omega, by omega⟩⟩

/-- `pr_poll_array_realloc` does not change the items, and leaves room exactly when both arrays are
    large enough afterwards.  It returns 0 only then. -/
theorem HasRoom.realloc (h : pollArray.HasRoom) (alloc : PrPollArrayAlloc) (size : Nat)
    (hitems : pollArray.items ≤ size) :
    ((prPollArrayRealloc pollArray alloc size).2.HasRoom ↔
      pollArray.userDataFails alloc size = false) ∧
    (prPollArrayRealloc pollArray alloc size).2.items = pollArray.items ∧
    ((prPollArrayRealloc pollArray alloc size).1 = true →
      (prPollArrayRealloc pollArray alloc size).2.allocated = size ∧
        pollArray.userDataFails alloc size = false) := by
  unfold prPollArrayRealloc userDataFails
  split
  · next harray =>
    rw [harray]
    exact ⟨iff_of_true h rfl, rfl, fun hok => by cases hok⟩
  · next harray =>
    dsimp only
    rw [Bool.not_eq_false] at harray
    simp only [harray, true_and, decide_eq_false_iff_not]
    split
    · split
      · next huserAlloc =>
        -- The second array is what it was.
        refine ⟨⟨fun hroom hfails => Nat.not_le_of_lt hfails.2 hroom.userDataArray,
          fun hroom => ⟨hitems, Nat.le_refl _, ?_⟩⟩, rfl, fun hok => by cases hok⟩
        exact Nat.le_of_not_lt fun hsmall => hroom ⟨huserAlloc, hsmall⟩
      · next huserAlloc =>
        exact ⟨iff_of_true ⟨hitems, Nat.le_refl _, Nat.le_refl _⟩ fun hno => huserAlloc hno.1, rfl,
          fun _ => ⟨rfl, fun hno => huserAlloc hno.1⟩⟩
    · next huser =>
      have hzero : pollArray.userDataSize = 0 := Nat.eq_zero_of_not_pos huser
      have hroom : ¬ (alloc.userDataArray = false ∧
          pollArray.userDataArray < pollArray.userDataSize * size) := by
        rw [hzero, Nat.zero_mul]
        exact fun hno => Nat.not_lt_zero _ hno.2
      refine ⟨iff_of_true ⟨hitems, Nat.le_refl _, ?_⟩ hroom, rfl, fun _ => ⟨rfl, hroom⟩⟩
      simp only [hzero, Nat.zero_mul, Nat.zero_le]

/-- One more item in arrays that have room for it. -/
theorem HasRoom.nextSlot (h : pollArray.HasRoom) (hroom : pollArray.items < pollArray.allocated) :
    (prPollArrayNextSlot pollArray).2.HasRoom ∧
    (prPollArrayNextSlot pollArray).2.InArray (prPollArrayNextSlot pollArray).1.pfds ∧
    (prPollArrayNextSlot pollArray).2.InUserDataArray (prPollArrayNextSlot pollArray).1.userData :=
  ⟨⟨hroom, h.array, h.userDataArray⟩, h.inside _ hroom⟩

/-- What `pr_poll_array_add` hands out is inside of both arrays, and there is room afterwards unless
    the growth has failed. -/
theorem HasRoom.add (h : pollArray.HasRoom) {alloc : PrPollArrayAlloc} {slot : Option PrPollSlot}
    (hadd : prPollArrayAdd pollArray alloc = (slot, pollArray')) :
    (pollArray'.HasRoom ↔ pollArray.growthFails (.add alloc) = false) ∧
    ∀ slot', slot = some slot' →
      pollArray'.InArray slot'.pfds ∧ pollArray'.InUserDataArray slot'.userData := by
  have hle := h.items
  unfold prPollArrayAdd prPollArraySize at hadd
  simp only [growthFails, Bool.decide_and, Bool.decide_eq_true]
  split at hadd
  · next hfull =>
    obtain ⟨hroom, hsame, hdone⟩ := h.realloc alloc (pollArray.allocated * 2 + 1) (by omega)
    generalize prPollArrayRealloc pollArray alloc (pollArray.allocated * 2 + 1) = res
      at hadd hsame hroom hdone
    obtain ⟨ok, pollArray₁⟩ := res
    rw [decide_eq_true (by exact hfull), Bool.true_and]
    cases ok with
    | false =>
      cases hadd
      exact ⟨hroom, fun slot' hslot => by cases hslot⟩
    | true =>
      obtain ⟨hsize, hfits⟩ := hdone rfl
      have hlt : pollArray₁.items < pollArray₁.allocated := by
        dsimp only at hsame hsize
        omega
      obtain ⟨hroom', hslot⟩ := (hroom.mpr hfits).nextSlot hlt
      cases hadd
      refine ⟨iff_of_true hroom' hfits, fun slot' hslot' => ?_⟩
      cases hslot'
      exact hslot
  · next hfree =>
    obtain ⟨hroom', hslot⟩ := h.nextSlot (Nat.lt_of_not_le hfree)
    cases hadd
    rw [decide_eq_false (by exact hfree), Bool.false_and]
    refine ⟨iff_of_true hroom' rfl, fun slot' hslot' => ?_⟩
    cases hslot'
    exact hslot

/-- Where there is room, everything but a negative index stays inside of the arrays. -/
theorem contained_iff (pos : Int) :
    pollArray.Contained pos ↔ pollArray.HasRoom ∧ 0 ≤ pos := by
  constructor
  · intro h
    refine ⟨h.room, ?_⟩
    by_contra hneg
    have hget : prPollArrayGet pollArray pos = some pos := if_neg (by omega)
    exact hneg (h.got pos hget).1
  · rintro ⟨hroom, hpos⟩
    obtain ⟨pos, rfl⟩ := Int.eq_ofNat_of_zero_le hpos
    have hin (hlt : ¬ (pos : Int) ≥ pollArray.items) := hroom.inside pos
      (Nat.lt_of_lt_of_le (by omega) hroom.items)
    refine ⟨hroom, fun alloc slot pollArray' hadd => (hroom.add hadd).2 slot rfl, fun pfds hget => ?_,
      fun userData hget => ?_⟩
    · unfold prPollArrayGet at hget
      split at hget
      · cases hget
      · next hlt =>
        cases hget
        exact (hin hlt).1
    · unfold prPollArrayGetUserData at hget
      split at hget
      · cases hget
      · next hlt =>
        cases hget
        exact (hin hlt).2

/-- A call leaves room exactly when it is not a growth that fails between the two arrays. -/
theorem HasRoom.step (h : pollArray.HasRoom) {op : PrPollArrayOp}
    (hstep : prPollArrayStep pollArray op = some pollArray') :
    pollArray'.HasRoom ↔ !pollArray.growthFails op := by
  cases op with
  | clean =>
    cases hstep
    exact iff_of_true ⟨Nat.zero_le _, h.array, h.userDataArray⟩ rfl
  | gc alloc =>
    cases hstep
    refine iff_of_true ?_ rfl
    unfold prPollArrayGc prPollArraySize
    split
    · next hlarge =>
      -- The arrays get smaller, so that the second is large enough as it is.
      refine (h.realloc alloc _ (by omega)).1.mpr ?_
      have hsize : pollArray.userDataSize * (pollArray.items * 2 + 1) ≤ pollArray.userDataArray :=
        (Nat.mul_le_mul_left _ (by omega)).trans h.userDataArray
      rw [userDataFails, decide_eq_false_iff_not]
      exact fun hfails => Nat.not_le_of_lt hfails.2.2 hsize
    · exact h
  | add alloc =>
    cases hstep
    rw [Bool.not_eq_true']
    exact (h.add rfl).1

end PrPollArray

/-! ### Whole runs -/

/-- In every run, both arrays have room for what they are to hold in all states, and what is handed
    out or looked up is inside of them, exactly if no growth fails between the two arrays and
    the index is not negative. -/
theorem pollArray_contained_iff (userDataSize : Nat) (ops : List PrPollArrayOp) (pos : Int) :
    (∀ n pollArray, (prPollArrayMachine userDataSize).exec (prPollArrayMachine userDataSize).init
        (ops.take n) = some pollArray → pollArray.Contained pos) ↔
    (prPollArrayMachine userDataSize).AllSteps (fun pollArray op => !pollArray.growthFails op)
      (prPollArrayMachine userDataSize).init ops ∧ 0 ≤ pos := by
  have hinit : (prPollArrayMachine userDataSize).init.HasRoom :=
    ⟨Nat.le_refl _, Nat.le_refl _, Nat.le_refl _⟩
  -- The condition on the operations says that every prefix of the run leaves room.
  rw [← Runs.Machine.forall_prefix_iff (m := prPollArrayMachine userDataSize)
    (fun h hstep => PrPollArray.HasRoom.step h hstep) hinit ops]
  constructor
  · intro h
    exact ⟨fun n pollArray hrun => (h n pollArray hrun).room,
      ((PrPollArray.contained_iff pos).mp (h 0 _ rfl)).2⟩
  · rintro ⟨hroom, hpos⟩ n pollArray hrun
    exact (PrPollArray.contained_iff pos).mpr ⟨hroom n pollArray hrun, hpos⟩

/-- The second `realloc` fails when the array of one item is to grow: the next call hands out a slot
    that is not inside of the array for user data. -/
theorem pollArray_growth_fails :
    ∃ pollArray, (prPollArrayMachine 8).exec (prPollArrayMachine 8).init
        [.add {}, .add { userDataArray := false }] = some pollArray ∧
      pollArray.allocated = 3 ∧ pollArray.userDataArray = 8 ∧
      prPollArrayAdd pollArray {} = (some { pfds := 1, userData := 8, pos := 1 },
        { pollArray with items := 2 }) ∧
      ¬ pollArray.InUserDataArray 8 ∧ ¬ pollArray.Contained 0 := by
  refine ⟨_, rfl, rfl, rfl, rfl, fun h => ?_, fun h => ?_⟩
  · have hend : (8 : Int) + 8 ≤ 8 := h.2
    omega
  · have hbytes : 8 * 3 ≤ 8 := h.room.userDataArray
    omega

end Qdevice
