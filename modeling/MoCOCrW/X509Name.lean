/-
`_X509_NAME_get_index_by_NID` of `src/openssl_wrap.cpp` (lines 905-915): the
loop that collects every entry of an `X509_NAME` with a given NID.

The loop asks OpenSSL for the next index after the last one it found and stops
on `-1`. OpenSSL's `X509_NAME_get_index_by_NID` (3.0) has a second sentinel: it
returns `-2` when the NID has no object (`OBJ_nid2obj` fails), whatever
`lastpos` is. The model keeps the OBJ table as a parameter, `nidHasObject`, and
the loop as a step function (`getIndexStep`) iterated under an explicit budget
of passes (`fuel`): the wrapper returns `none` when the budget runs out before
the loop condition turns false.

The two results are about every name and every NID. When the NID has an
object, the loop returns after one pass per match plus one, with exactly the
increasing list of matching positions (`positions`). When it has none, every
pass pushes `-2` and asks again from `-2`, so no budget is enough.
-/
import MoCOCrW.CheckedCall
import Mathlib.Data.List.Basic

set_option autoImplicit false

namespace mococrw.openssl

/-- An `X509_NAME`, by the NIDs of its entries in order. -/
structure X509Name where
  entries : List Int
  deriving DecidableEq

/-! ## The native function -/

namespace lib.OpenSSLLib

/-- The loop of `X509_NAME_get_index_by_OBJ`, `for (lastpos++; lastpos < n;
lastpos++)`: the first position holding `nid`, counting the entries `es` from
position `i`, or `-1`. -/
def scanEntries (nid : Int) : List Int → Nat → Int
  | [], _ => -1
  | e :: es, i => if e = nid then i else scanEntries nid es (i + 1)

/-- `X509_NAME_get_index_by_NID(name, nid, lastpos)`. -/
def SSL_X509_NAME_get_index_by_NID (nidHasObject : Int → Bool) (name : X509Name)
    (nid lastpos : Int) : Int :=
  if nidHasObject nid then
    let start := (max lastpos (-1) + 1).toNat
    scanEntries nid (name.entries.drop start) start
  else -2

end lib.OpenSSLLib

/-! ## The wrapper -/

section

variable (nidHasObject : Int → Bool) (name : X509Name) (nid : Int)

/-- One pass of the loop body: `result.push_back(rv)`, then ask again from `rv`. -/
def getIndexStep (s : List Int × Int) : List Int × Int :=
  (s.1 ++ [s.2], lib.OpenSSLLib.SSL_X509_NAME_get_index_by_NID nidHasObject name nid s.2)

/-- `while (rv != -1) { ... }` for at most `fuel` passes. -/
def getIndexLoop : Nat → List Int × Int → Option (List Int)
  | 0, _ => none
  | fuel + 1, s => if s.2 ≠ -1 then getIndexLoop fuel (getIndexStep nidHasObject name nid s) else some s.1

/-- `_X509_NAME_get_index_by_NID`, given `fuel` passes of its loop. -/
def _X509_NAME_get_index_by_NID (fuel : Nat) : Option (List Int) :=
  getIndexLoop nidHasObject name nid fuel
    ([], lib.OpenSSLLib.SSL_X509_NAME_get_index_by_NID nidHasObject name nid (-1))

end

end mococrw.openssl

namespace MoCOCrW.X509Name

open mococrw.openssl

/-! ## The matching positions -/

/-- The positions holding `nid`, counting the entries `es` from position `i`, in
increasing order. -/
def positions (nid : Int) : List Int → Nat → List Nat
  | [], _ => []
  | e :: es, i => if e = nid then i :: positions nid es (i + 1) else positions nid es (i + 1)

theorem le_of_mem_positions {nid : Int} {es : List Int} {i j : Nat}
    (h : j ∈ positions nid es i) : i ≤ j := by
  induction es generalizing i with
  | nil => simp [positions] at h
  | cons e es ih =>
    simp only [positions] at h
    split_ifs at h
    · rcases List.mem_cons.mp h with rfl | h
      · exact le_rfl
      · exact Nat.le_of_succ_le (ih h)
    · exact Nat.le_of_succ_le (ih h)

/-- A position is listed exactly when its entry holds `nid`. -/
theorem mem_positions (nid : Int) (es : List Int) (i j : Nat) :
    j ∈ positions nid es i ↔ i ≤ j ∧ es[j - i]? = some nid := by
  induction es generalizing i with
  | nil => simp [positions]
  | cons e es ih =>
    have hstep : j ∈ positions nid es (i + 1) ↔ i < j ∧ (e :: es)[j - i]? = some nid := by
      rw [ih]
      rcases Nat.lt_or_ge i j with hij | hij
      · obtain ⟨k, rfl⟩ := Nat.exists_eq_add_of_lt hij
        simp [hij, show i + k + 1 - i = k + 1 by omega, show i + k + 1 - (i + 1) = k by omega]
      · simp [show ¬i < j by omega, show ¬i + 1 ≤ j by omega]
    simp only [positions]
    split_ifs with he
    · rw [List.mem_cons, hstep]
      rcases Nat.lt_or_ge i j with hij | hij
      · simp [hij, hij.le, show j ≠ i by omega]
      · rcases Nat.eq_or_lt_of_le hij with rfl | hlt
        · simp [he]
        · simp [show j ≠ i by omega, show ¬i < j by omega, show ¬i ≤ j by omega]
    · rw [hstep]
      rcases Nat.lt_or_ge i j with hij | hij
      · simp [hij, hij.le]
      · rcases Nat.eq_or_lt_of_le hij with rfl | hlt
        · simp [he]
        · simp [show ¬i < j by omega, show ¬i ≤ j by omega]

/-- The positions are strictly increasing. -/
theorem positions_pairwise (nid : Int) (es : List Int) (i : Nat) :
    (positions nid es i).Pairwise (· < ·) := by
  induction es generalizing i with
  | nil => exact List.Pairwise.nil
  | cons e es ih =>
    simp only [positions]
    split_ifs
    · exact List.Pairwise.cons (fun j hj => le_of_mem_positions hj) (ih (i + 1))
    · exact ih (i + 1)

/-- What `X509_NAME_get_index_by_OBJ` answers for a list of positions: the first,
or `-1`. -/
def headOr : List Nat → Int
  | [] => -1
  | j :: _ => j

theorem scanEntries_eq (nid : Int) (es : List Int) (i : Nat) :
    lib.OpenSSLLib.scanEntries nid es i = headOr (positions nid es i) := by
  induction es generalizing i with
  | nil => rfl
  | cons e es ih =>
    simp only [lib.OpenSSLLib.scanEntries, positions]
    split_ifs
    · rfl
    · exact ih (i + 1)

/-- After position `j` comes the rest of the list. -/
theorem positions_eq_cons {nid : Int} {es : List Int} {i j : Nat} {rest : List Nat}
    (h : positions nid es i = j :: rest) : rest = positions nid (es.drop (j + 1 - i)) (j + 1) := by
  induction es generalizing i with
  | nil => simp [positions] at h
  | cons e es ih =>
    simp only [positions] at h
    split_ifs at h
    · obtain ⟨rfl, rfl⟩ := List.cons.inj h
      simp
    · have hij : i + 1 ≤ j := le_of_mem_positions (h ▸ List.mem_cons_self j rest)
      rw [ih h, show j + 1 - i = (j + 1 - (i + 1)) + 1 by omega, List.drop_succ_cons]

section Loop

variable (nidHasObject : Int → Bool) (name : X509Name) (nid : Int)

/-- The matching positions from position `k` on. -/
def matchesFrom (k : Nat) : List Nat := positions nid (name.entries.drop k) k

theorem matchesFrom_eq_cons {k j : Nat} {rest : List Nat} (h : matchesFrom name nid k = j :: rest) :
    rest = matchesFrom name nid (j + 1) := by
  have hkj : k ≤ j := le_of_mem_positions ((h : positions _ _ _ = _) ▸ List.mem_cons_self j rest)
  rw [positions_eq_cons h, List.drop_drop, show k + (j + 1 - k) = j + 1 by omega]
  rfl

/-- With an object for `nid`, OpenSSL answers the first match after `lastpos`. -/
theorem SSL_X509_NAME_get_index_by_NID_of_object (h : nidHasObject nid = true) (lastpos : Int) :
    lib.OpenSSLLib.SSL_X509_NAME_get_index_by_NID nidHasObject name nid lastpos =
      headOr (matchesFrom name nid (max lastpos (-1) + 1).toNat) := by
  simp only [lib.OpenSSLLib.SSL_X509_NAME_get_index_by_NID, h, if_true, scanEntries_eq]
  rfl

/-- Without one, it answers `-2`, whatever `lastpos` is. -/
theorem SSL_X509_NAME_get_index_by_NID_of_no_object (h : nidHasObject nid = false)
    (lastpos : Int) :
    lib.OpenSSLLib.SSL_X509_NAME_get_index_by_NID nidHasObject name nid lastpos = -2 := by
  simp [lib.OpenSSLLib.SSL_X509_NAME_get_index_by_NID, h]

/-- **The loop, with an object for `nid`.** From a state whose `rv` is the first
match from `k` on, the loop returns the matches from `k` on behind what it has
collected, provided it is given one pass per match and one more; with fewer it
runs out. -/
theorem getIndexLoop_of_object (h : nidHasObject nid = true) (fuel k : Nat) (acc : List Int) :
    getIndexLoop nidHasObject name nid fuel (acc, headOr (matchesFrom name nid k)) =
      if (matchesFrom name nid k).length < fuel then
        some (acc ++ (matchesFrom name nid k).map Int.ofNat)
      else none := by
  induction fuel generalizing k acc with
  | zero => rfl
  | succ fuel ih =>
    match hm : matchesFrom name nid k with
    | [] => simp [getIndexLoop, headOr]
    | j :: rest =>
      have hnext : lib.OpenSSLLib.SSL_X509_NAME_get_index_by_NID nidHasObject name nid j =
          headOr (matchesFrom name nid (j + 1)) := by
        rw [SSL_X509_NAME_get_index_by_NID_of_object nidHasObject name nid h,
          show (max (j : Int) (-1) + 1).toNat = j + 1 by omega]
      have hj : headOr (j :: rest) ≠ -1 := by simp only [headOr]; omega
      rw [getIndexLoop, if_pos hj, getIndexStep]
      dsimp only
      rw [show headOr (j :: rest) = j from rfl, hnext, ih, ← matchesFrom_eq_cons name nid hm]
      simp

/-- **The loop, without an object for `nid`.** Every pass pushes `-2` and asks
again from `-2`. -/
theorem iterate_getIndexStep_of_no_object (h : nidHasObject nid = false) (n : Nat)
    (acc : List Int) :
    (getIndexStep nidHasObject name nid)^[n] (acc, -2) = (acc ++ List.replicate n (-2), -2) := by
  induction n with
  | zero => simp
  | succ n ih =>
    rw [Function.iterate_succ_apply', ih, getIndexStep,
      SSL_X509_NAME_get_index_by_NID_of_no_object nidHasObject name nid h, List.replicate_succ',
      List.append_assoc]

/-- So no budget of passes is enough. -/
theorem getIndexLoop_of_no_object (h : nidHasObject nid = false) (fuel : Nat) (acc : List Int) :
    getIndexLoop nidHasObject name nid fuel (acc, -2) = none := by
  induction fuel generalizing acc with
  | zero => rfl
  | succ fuel ih =>
    simp only [getIndexLoop, getIndexStep, SSL_X509_NAME_get_index_by_NID_of_no_object nidHasObject
      name nid h, ne_eq, show (-2 : Int) ≠ -1 by decide, not_false_eq_true, if_true, ih]

end Loop

/-! ## `_X509_NAME_get_index_by_NID` -/

/-- With an object for `nid`, the wrapper returns the matching positions once it
is given a pass for each and one more. -/
theorem get_index_by_NID_of_object (nidHasObject : Int → Bool) (name : X509Name) (nid : Int)
    (h : nidHasObject nid = true) (fuel : Nat) :
    _X509_NAME_get_index_by_NID nidHasObject name nid fuel =
      if (matchesFrom name nid 0).length < fuel then
        some ((matchesFrom name nid 0).map Int.ofNat) else none := by
  rw [_X509_NAME_get_index_by_NID, SSL_X509_NAME_get_index_by_NID_of_object nidHasObject name nid h]
  exact getIndexLoop_of_object nidHasObject name nid h fuel 0 []

example : _X509_NAME_get_index_by_NID (fun n => decide (0 ≤ n)) ⟨[13, 3, 13]⟩ 13 3 = some [0, 2] := by
  decide

/-- **Without an object for `nid`, the loop never ends.** `X509_NAME_get_index_by_NID`
answers `-2`, which is not the `-1` the loop waits for: the wrapper returns for
no budget of passes, and after `n` passes it has pushed `-2` `n` times. -/
theorem get_index_by_NID_no_object_diverges (nidHasObject : Int → Bool) (name : X509Name)
    (nid : Int) (h : nidHasObject nid = false) :
    (∀ fuel, _X509_NAME_get_index_by_NID nidHasObject name nid fuel = none) ∧
      ∀ n, (getIndexStep nidHasObject name nid)^[n]
          ([], lib.OpenSSLLib.SSL_X509_NAME_get_index_by_NID nidHasObject name nid (-1)) =
        (List.replicate n (-2), -2) := by
  rw [SSL_X509_NAME_get_index_by_NID_of_no_object nidHasObject name nid h]
  exact ⟨fun fuel => by
      rw [_X509_NAME_get_index_by_NID, SSL_X509_NAME_get_index_by_NID_of_no_object nidHasObject name nid h]
      exact getIndexLoop_of_no_object nidHasObject name nid h fuel [],
    fun n => iterate_getIndexStep_of_no_object nidHasObject name nid h n []⟩

theorem get_index_by_NID_no_object_diverges_unknown_nid :
    (fun n : Int => decide (0 ≤ n)) (-1) = false ∧
      _X509_NAME_get_index_by_NID (fun n => decide (0 ≤ n)) ⟨[13]⟩ (-1) 100 = none :=
  ⟨rfl, (get_index_by_NID_no_object_diverges (fun n => decide (0 ≤ n)) ⟨[13]⟩ (-1) (by decide)).1 100⟩

end MoCOCrW.X509Name
