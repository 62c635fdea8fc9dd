/-
Building an `X509_NAME` and reading its entries back: `_X509_NAME_new` and
`_X509_NAME_add_entry_by_NID` of `src/openssl_wrap.cpp` (lines 300-318), and
`_X509_NAME_get_entry` (lines 917-920) after `_X509_NAME_get_index_by_NID`
(lines 905-915, `X509Name.lean`).

A name is known by the NIDs of its entries, as in `X509Name.lean`.
`X509_NAME_add_entry_by_NID` is modelled from OpenSSL 3.0: it makes the entry,
which fails when the NID has no object or when the value is refused for its
string type (`acceptsValue`, a parameter like `nidHasObject`: the string rules
of `ASN1_STRING_set_by_NID` are not modelled), and inserts it at `loc`, at the
end when `loc` is negative or past the end; `set` only groups entries into
RDNs, which the NIDs do not show. The wrapper passes `loc = -1` and the size of
its byte vector as an `int`.

Two results. Entries added in turn appear in the order they were added, and the
first entry OpenSSL refuses throws and leaves the name with exactly the entries
added before it (`addEntries_eq`). And the positions
`_X509_NAME_get_index_by_NID` returns can all be fetched with
`_X509_NAME_get_entry`, each holding the NID asked for
(`get_entry_of_get_index`): reading a name the way the distinguished-name code
does never throws between the two calls.
-/
import MoCOCrW.X509Name
import MoCOCrW.MachineInt

set_option autoImplicit false

namespace mococrw.openssl

namespace lib.OpenSSLLib

/-- `X509_NAME_new()`: an empty name, or `nullptr` when OpenSSL cannot allocate one. -/
def SSL_X509_NAME_new (allocates : Bool) : Option X509Name :=
  if allocates then some ⟨[]⟩ else none

/-- `X509_NAME_add_entry_by_NID(name, nid, type, bytes, len, loc, set)`. -/
def SSL_X509_NAME_add_entry_by_NID (nidHasObject : Int → Bool)
    (acceptsValue : Int → Int → List UInt8 → Int → Bool) (name : X509Name) (nid type : Int)
    (bytes : List UInt8) (len loc _set : Int) : Int × X509Name :=
  if nidHasObject nid && acceptsValue nid type bytes len then
    let n := name.entries.length
    let pos := if loc < 0 ∨ n < loc then n else loc.toNat
    (1, ⟨name.entries.take pos ++ nid :: name.entries.drop pos⟩)
  else (0, name)

/-- `X509_NAME_get_entry(name, loc)`: the entry at `loc`, `nullptr` out of range. -/
def SSL_X509_NAME_get_entry (name : X509Name) (loc : Int) : Option Int :=
  if loc < 0 then none else name.entries[loc.toNat]?

end lib.OpenSSLLib

/-- `_X509_NAME_new()`. -/
def _X509_NAME_new (allocates : Bool) : Except Error X509Name :=
  OpensslCallPtr.callChecked (lib.OpenSSLLib.SSL_X509_NAME_new allocates)

section

variable (nidHasObject : Int → Bool) (acceptsValue : Int → Int → List UInt8 → Int → Bool)

/-- `_X509_NAME_add_entry_by_NID(name, nid, type, bytes)`: appended at the end
(`loc = -1`), as a new RDN (`set = 0`). -/
def _X509_NAME_add_entry_by_NID (nid type : Int) (bytes : List UInt8) :
    EStateM Error X509Name Unit := do
  let rv ← modifyGet fun name =>
    lib.OpenSSLLib.SSL_X509_NAME_add_entry_by_NID nidHasObject acceptsValue name nid type bytes
      (wrapSigned 32 bytes.length) (-1) 0
  let _ ← MonadExcept.ofExcept (OpensslCallIsOne.callChecked rv)

/-- A caller that adds entries (NID, string type, value) one after another; the
first exception ends it. -/
def addEntries : List (Int × Int × List UInt8) → EStateM Error X509Name Unit
  | [] => pure ()
  | (nid, type, bytes) :: rest => do
    _X509_NAME_add_entry_by_NID nidHasObject acceptsValue nid type bytes
    addEntries rest

end

/-- `_X509_NAME_get_entry(name, loc)`; an entry is known by its NID. -/
def _X509_NAME_get_entry (name : X509Name) (loc : Int) : Except Error Int :=
  OpensslCallPtr.callChecked (lib.OpenSSLLib.SSL_X509_NAME_get_entry name loc)

end mococrw.openssl

namespace MoCOCrW.X509NameBuild

open mococrw.openssl MoCOCrW.X509Name

section

variable (nidHasObject : Int → Bool) (acceptsValue : Int → Int → List UInt8 → Int → Bool)

/-- Whether OpenSSL takes an entry that `_X509_NAME_add_entry_by_NID` hands it. -/
def accepted (e : Int × Int × List UInt8) : Bool :=
  nidHasObject e.1 && acceptsValue e.1 e.2.1 e.2.2 (wrapSigned 32 e.2.2.length)

theorem _X509_NAME_add_entry_by_NID_eq (nid type : Int) (bytes : List UInt8) (name : X509Name) :
    _X509_NAME_add_entry_by_NID nidHasObject acceptsValue nid type bytes name =
      if accepted nidHasObject acceptsValue (nid, type, bytes) then
        .ok () ⟨name.entries ++ [nid]⟩
      else .error .openSSLException name := by
  simp only [_X509_NAME_add_entry_by_NID, modifyGet_bind_apply,
    lib.OpenSSLLib.SSL_X509_NAME_add_entry_by_NID]
  rw [show (nidHasObject nid && acceptsValue nid type bytes (wrapSigned 32 bytes.length)) =
    accepted nidHasObject acceptsValue (nid, type, bytes) from rfl]
  split <;> simp [callChecked_isOne_eq]

/-- **Entries added in turn.** They appear behind the name's entries in the order
they were added; the first one OpenSSL refuses throws, and the name keeps exactly
the entries added before it. -/
theorem addEntries_eq (es : List (Int × Int × List UInt8)) (name : X509Name) :
    addEntries nidHasObject acceptsValue es name =
      if es.all (accepted nidHasObject acceptsValue) then
        .ok () ⟨name.entries ++ es.map Prod.fst⟩
      else .error .openSSLException
        ⟨name.entries ++ (es.takeWhile (accepted nidHasObject acceptsValue)).map Prod.fst⟩ := by
  induction es generalizing name with
  | nil => simp [addEntries]
  | cons e es ih =>
    obtain ⟨nid, type, bytes⟩ := e
    have hadd := _X509_NAME_add_entry_by_NID_eq nidHasObject acceptsValue nid type bytes name
    rw [addEntries]
    by_cases h : accepted nidHasObject acceptsValue (nid, type, bytes)
    · rw [if_pos h] at hadd
      simp only [bind_apply_of_ok hadd, ih, List.all_cons, h, Bool.true_and,
        List.takeWhile_cons_of_pos h, List.map_cons, List.append_assoc, List.singleton_append]
    · rw [if_neg h] at hadd
      simp [bind_apply_of_error hadd, h]

end

/-- **Query, then fetch.** Every position `_X509_NAME_get_index_by_NID` returns
for a NID with an object is one `_X509_NAME_get_entry` accepts, and the entry
there has that NID. -/
theorem get_entry_of_get_index (nidHasObject : Int → Bool) (name : X509Name) (nid : Int)
    (fuel : Nat) (r : List Int) (hobj : nidHasObject nid = true)
    (hr : _X509_NAME_get_index_by_NID nidHasObject name nid fuel = some r) :
    ∀ i ∈ r, _X509_NAME_get_entry name i = .ok nid := by
  rw [get_index_by_NID_of_object nidHasObject name nid hobj] at hr
  split_ifs at hr
  intro i hi
  obtain ⟨j, hj, rfl⟩ := List.mem_map.mp ((Option.some.inj hr).symm ▸ hi)
  have hentry : name.entries[j]? = some nid := by
    simpa [matchesFrom, mem_positions] using hj
  simp [_X509_NAME_get_entry, lib.OpenSSLLib.SSL_X509_NAME_get_entry, hentry,
    show ¬(j : Int) < 0 by omega]

theorem get_entry_of_get_index_two_matches :
    (fun n : Int => decide (0 ≤ n)) 13 = true ∧
      _X509_NAME_get_index_by_NID (fun n => decide (0 ≤ n)) ⟨[13, 3, 13]⟩ 13 3 =
        some [0, 2] ∧
      ∀ i ∈ [(0 : Int), 2], _X509_NAME_get_entry ⟨[13, 3, 13]⟩ i = .ok 13 :=
  ⟨rfl, by decide,
    get_entry_of_get_index (fun n => decide (0 ≤ n)) ⟨[13, 3, 13]⟩ 13 3 [0, 2] rfl
      (by decide)⟩

end MoCOCrW.X509NameBuild
