/-
The `BIO` wrappers of `src/openssl_wrap.cpp` (lines 384-431): `_BIO_gets`,
`_BIO_puts`, `_BIO_write` and `_BIO_read`, and what a sequence of them does to
one memory `BIO`.

A memory `BIO` is a byte queue: writes append to it and reads take from its
front. The native calls are modelled from the memory method of OpenSSL 3.0
(`BIO_s_mem`) and the checks `BIO_write`, `BIO_read`, `BIO_gets` and `BIO_puts`
make in front of it. A method that lacks an operation answers `-2`. A read of
an empty buffer answers `-1`, the default end-of-data value of a memory `BIO`.
`BIO_gets` refuses a negative size with `-1` (the error code it queues is not
modelled here), and otherwise takes at most `size - 1` bytes, up to and
including the first newline, and writes a NUL after them, the NUL even when it
takes nothing. `BIO_puts` writes its argument as a C string, up to its first
NUL byte.

The wrappers are translated from the source: the size guards of `_BIO_write`
and `_BIO_read`, the `-2` checks and their messages, the resizing of the
caller's buffer, and the conversion of `_BIO_gets`'s buffer size from `size_t`
to `int`, which has no guard. The caller's buffer is an in-out parameter
(`std::vector&`): `_BIO_read` and `_BIO_gets` run with the `BIO` and that buffer
as their state, so what a throw leaves in the buffer is part of the model. A
native call writes through `data()`, so bytes past the end of the buffer are a
write out of bounds (`Error.outOfBoundsWrite`): `_BIO_gets` on an empty vector
writes its NUL through `nullptr`.

`runBio_conserves` says what the memory `BIO` is for, over whole runs: a byte
queue (`QueueRun`). Whatever the calls and the buffers they are given, each call
hands back bytes from the front of what is pending, appends what it stores, and
returns the number of bytes it moved, or `-1` exactly when it finds nothing to
read; so the bytes the reads hand back, in order, followed by what is still
pending, are the bytes that were pending followed by the bytes the writes
stored. A run that throws leaves the `BIO` as the calls before the failing one
left it. It follows by induction over the calls from one step lemma,
`BioCall.run_cases`, which says everything one call can do.
-/
import MoCOCrW.BigNum

set_option autoImplicit false

namespace mococrw.openssl

/-! ## The native memory `BIO` -/

/-- Which of the four byte operations a `BIO_METHOD` implements. -/
structure BIO_METHOD where
  bwrite : Bool
  bread : Bool
  bputs : Bool
  bgets : Bool
  deriving DecidableEq, Repr

/-- `struct bio_st`, which `BIO` names, for a `BIO` that keeps its bytes in
memory: its method, and the bytes written and not yet read. -/
structure bio_st where
  method : BIO_METHOD
  pending : List UInt8
  deriving DecidableEq, Repr

/-- A line: the bytes up to and including the first newline, or all of them. -/
def takeLine : List UInt8 → List UInt8
  | [] => []
  | c :: cs => if c = 10 then [c] else c :: takeLine cs

/-- The caller's buffer after a native call wrote `bytes` at its start, as far
as the buffer reaches. -/
def overwrite (buf bytes : List UInt8) : List UInt8 :=
  (bytes ++ buf.drop bytes.length).take buf.length

/-- A native call writing `bytes` at the start of the caller's buffer through
`data()`: past its end the write is out of bounds. -/
def writeBuffer (buf bytes : List UInt8) : Except Error (List UInt8) :=
  if bytes.length ≤ buf.length then .ok (overwrite buf bytes) else .error .outOfBoundsWrite

namespace lib.OpenSSLLib

/-- `BIO_s_mem()`: the memory method implements all four operations. -/
def SSL_BIO_s_mem : BIO_METHOD := ⟨true, true, true, true⟩

/-- `BIO_write(b, buf, len)` with `0 ≤ len`: the first `len` bytes of `buf` are
appended. -/
def SSL_BIO_write (b : bio_st) (buf : List UInt8) (len : Nat) : Int × bio_st :=
  if !b.method.bwrite then (-2, b)
  else if len = 0 then (0, b)
  else (len, { b with pending := b.pending ++ buf.take len })

/-- `BIO_read(b, buf, len)` with `0 ≤ len`: the value returned, the bytes written
at the start of `buf`, and the `BIO` after. -/
def SSL_BIO_read (b : bio_st) (len : Nat) : Int × List UInt8 × bio_st :=
  if !b.method.bread then (-2, [], b)
  else if b.pending = [] then (-1, [], b)
  else (min len b.pending.length, b.pending.take len, { b with pending := b.pending.drop len })

/-- `BIO_gets(b, buf, size)`: the value returned, the bytes written at the start
of `buf` (the line and its NUL), and the `BIO` after. With `size - 1 ≤ 0`, or
nothing pending, only the NUL is written. -/
def SSL_BIO_gets (b : bio_st) (size : Int) : Int × List UInt8 × bio_st :=
  if !b.method.bgets then (-2, [], b)
  else if size < 0 then (-1, [], b)
  else
    let line := takeLine (b.pending.take (size - 1).toNat)
    (line.length, line ++ [0], { b with pending := b.pending.drop line.length })

/-- `BIO_puts(b, buf)`: `buf` is a C string, so the bytes before its first NUL
are appended. -/
def SSL_BIO_puts (b : bio_st) (buf : List UInt8) : Int × bio_st :=
  if !b.method.bputs then (-2, b)
  else
    let s := buf.takeWhile (· ≠ 0)
    (s.length, { b with pending := b.pending ++ s })

end lib.OpenSSLLib

/-! ## The wrappers -/

/-- `_BIO_gets(bio, buf)`: `buf.size()` goes to the `int` parameter unchecked,
and `BIO_gets` writes through `buf.data()`. -/
def _BIO_gets : EStateM Error (bio_st × List UInt8) Int := do
  let (bio, buf) ← get
  let (rv, written, bio') := lib.OpenSSLLib.SSL_BIO_gets bio (wrapSigned 32 buf.length)
  let buf' ← MonadExcept.ofExcept (writeBuffer buf written)
  set (bio', buf')
  if rv = -2 then throw (.openSSLExceptionWith "Method 'gets' not implemented for this BIO")
  return rv

/-- `_BIO_puts(bio, buf)`. -/
def _BIO_puts (buf : List UInt8) : EStateM Error bio_st Int := do
  let rv ← modifyGet fun bio => lib.OpenSSLLib.SSL_BIO_puts bio buf
  if rv = -2 then throw (.openSSLExceptionWith "Method 'puts' not implemented for this BIO")
  return rv

/-- `_BIO_write(bio, data)`. -/
def _BIO_write (data : List UInt8) : EStateM Error bio_st Int := do
  if (data.length : Int) > INT_MAX then
    throw (.openSSLExceptionWith "BIO_write cannot be called with so much data")
  let rv ← modifyGet fun bio => lib.OpenSSLLib.SSL_BIO_write bio data data.length
  if rv = -2 then throw (.openSSLExceptionWith "Method 'write' not implemented for this BIO")
  return rv

/-- `_BIO_read(bio, buf, numBytes)`. -/
def _BIO_read (numBytes : Nat) : EStateM Error (bio_st × List UInt8) Int := do
  if (numBytes : Int) > INT_MAX then
    throw (.openSSLExceptionWith "BIO_read cannot be called with so much data")
  modify fun (bio, buf) => (bio, vectorResize buf numBytes)
  let rv ← modifyGet fun (bio, buf) =>
    let (rv, bytes, bio) := lib.OpenSSLLib.SSL_BIO_read bio numBytes
    (rv, (bio, overwrite buf bytes))
  if rv = -2 then throw (.openSSLExceptionWith "Method 'read' not implemented for this BIO")
  else if rv > 0 then modify fun (bio, buf) => (bio, vectorResize buf rv.toNat)
  else modify fun (bio, buf) => (bio, vectorResize buf 0)
  return rv

/-! ## Calls on one `BIO` -/

/-- A call of one of the four wrappers, with the caller's buffer where it takes one. -/
inductive BioCall where
  | write (data : List UInt8)
  | puts (buf : List UInt8)
  | read (buf : List UInt8) (numBytes : Nat)
  | gets (buf : List UInt8)
  deriving DecidableEq, Repr

/-- Runs a wrapper that takes the caller's buffer, starting from `buf`: its value
and the buffer afterwards. -/
def withBuffer (buf : List UInt8) (x : EStateM Error (bio_st × List UInt8) Int) :
    EStateM Error bio_st (Int × List UInt8) := fun bio =>
  match x (bio, buf) with
  | .ok rv (bio', buf') => .ok (rv, buf') bio'
  | .error e (bio', _) => .error e bio'

/-- A call: its value and, for `read` and `gets`, the caller's buffer afterwards. -/
def BioCall.run : BioCall → EStateM Error bio_st (Int × List UInt8)
  | .write data => fun bio => match _BIO_write data bio with
    | .ok rv bio' => .ok (rv, []) bio'
    | .error e bio' => .error e bio'
  | .puts buf => fun bio => match _BIO_puts buf bio with
    | .ok rv bio' => .ok (rv, []) bio'
    | .error e bio' => .error e bio'
  | .read buf numBytes => withBuffer buf (_BIO_read numBytes)
  | .gets buf => withBuffer buf _BIO_gets

/-- Calls one after another, as straight-line C++: the first exception ends the run. -/
def runBio : List BioCall → EStateM Error bio_st (List (Int × List UInt8))
  | [] => pure []
  | c :: cs => do
    let r ← c.run
    let rs ← runBio cs
    return r :: rs

end mococrw.openssl

namespace MoCOCrW.Bio

open mococrw.openssl lib.OpenSSLLib

/-! ## Buffers, lines and the `int` size -/

@[simp] theorem length_overwrite (buf bytes : List UInt8) :
    (overwrite buf bytes).length = buf.length := by
  simp only [overwrite, List.length_take, List.length_append, List.length_drop]; omega

@[simp] theorem overwrite_nil (buf : List UInt8) : overwrite buf [] = buf := by
  simp [overwrite]

/-- The first `k` bytes of a buffer that `bytes` were written into are the first
`k` of `bytes`, as long as both reach that far. -/
theorem take_overwrite {buf bytes : List UInt8} {k : Nat} (hb : k ≤ bytes.length)
    (hk : k ≤ buf.length) : (overwrite buf bytes).take k = bytes.take k := by
  rw [overwrite, List.take_take, Nat.min_eq_left hk, List.take_append_of_le_length hb]

/-- Resizing a buffer that `bytes` were written into to their length gives
back `bytes`. -/
theorem vectorResize_overwrite {buf bytes : List UInt8} (h : bytes.length ≤ buf.length) :
    vectorResize (overwrite buf bytes) bytes.length = bytes := by
  simp only [vectorResize, take_overwrite le_rfl h, List.take_length, length_overwrite,
    Nat.sub_eq_zero_of_le h, List.replicate_zero, List.append_nil]

/-- The bytes before the NUL that was written after `line` are `line`, as long
as `line` fits. -/
theorem take_overwrite_line {buf line : List UInt8} (h : line.length ≤ buf.length) :
    (overwrite buf (line ++ [0])).take line.length = line := by
  rw [take_overwrite (by simp) h, List.take_left' rfl]

theorem takeLine_prefix_self (l : List UInt8) : takeLine l <+: l := by
  induction l with
  | nil => exact List.prefix_rfl
  | cons c cs ih =>
    unfold takeLine
    split
    · exact (List.prefix_cons_inj c).mpr List.nil_prefix
    · exact (List.prefix_cons_inj c).mpr ih

theorem length_takeLine_le (l : List UInt8) : (takeLine l).length ≤ l.length :=
  (takeLine_prefix_self l).length_le

/-! ## One lemma per wrapper -/

theorem _BIO_write_eq (data : List UInt8) (bio : bio_st) :
    _BIO_write data bio =
      if (data.length : Int) > INT_MAX then
        .error (.openSSLExceptionWith "BIO_write cannot be called with so much data") bio
      else if bio.method.bwrite = false then
        .error (.openSSLExceptionWith "Method 'write' not implemented for this BIO") bio
      else .ok data.length { bio with pending := bio.pending ++ data } := by
  unfold _BIO_write
  by_cases h : (data.length : Int) > INT_MAX
  · simp only [h, if_true]; rfl
  · simp only [h, if_false]
    cases hw : bio.method.bwrite
    · simp [SSL_BIO_write, hw]
    · rcases data with _ | ⟨d, ds⟩
      · simp [SSL_BIO_write, hw]
      · have : (ds.length : Int) + 1 ≠ -2 := by omega
        simp [SSL_BIO_write, hw, this]

theorem _BIO_puts_eq (buf : List UInt8) (bio : bio_st) :
    _BIO_puts buf bio =
      if bio.method.bputs = false then
        .error (.openSSLExceptionWith "Method 'puts' not implemented for this BIO") bio
      else .ok (buf.takeWhile (· ≠ 0)).length
        { bio with pending := bio.pending ++ buf.takeWhile (· ≠ 0) } := by
  unfold _BIO_puts
  have : ((buf.takeWhile (· ≠ 0)).length : Int) ≠ -2 := by omega
  cases hp : bio.method.bputs <;> simp [SSL_BIO_puts, hp, this]

/-- A read that gets past its guards resizes the caller's buffer to what it
read; a read of an empty `BIO` empties it. A throw for a missing method leaves
the buffer resized to `numBytes`. -/
theorem _BIO_read_eq (numBytes : Nat) (bio : bio_st) (buf : List UInt8) :
    _BIO_read numBytes (bio, buf) =
      if (numBytes : Int) > INT_MAX then
        .error (.openSSLExceptionWith "BIO_read cannot be called with so much data") (bio, buf)
      else if bio.method.bread = false then
        .error (.openSSLExceptionWith "Method 'read' not implemented for this BIO")
          (bio, vectorResize buf numBytes)
      else if bio.pending = [] then .ok (-1) (bio, [])
      else .ok (min numBytes bio.pending.length)
        ({ bio with pending := bio.pending.drop numBytes }, bio.pending.take numBytes) := by
  unfold _BIO_read
  by_cases h : (numBytes : Int) > INT_MAX
  · simp only [h, if_true]; rfl
  · simp only [h, if_false]
    cases hr : bio.method.bread
    · simp [SSL_BIO_read, hr]
    · by_cases hp : bio.pending = []
      · simp [SSL_BIO_read, hr, hp, vectorResize]
      · have hnat : SSL_BIO_read bio numBytes = (min (numBytes : Int) bio.pending.length,
            bio.pending.take numBytes, { bio with pending := bio.pending.drop numBytes }) := by
          simp [SSL_BIO_read, hr, hp]
        have hlen : 0 < bio.pending.length := List.length_pos.mpr hp
        have hne : min (numBytes : Int) bio.pending.length ≠ -2 := by omega
        by_cases hn : 0 < numBytes
        · have hk : (min (numBytes : Int) bio.pending.length).toNat =
              (bio.pending.take numBytes).length := by
            simp only [List.length_take]; omega
          have hpos : min (numBytes : Int) bio.pending.length > 0 := by omega
          have hfit : (bio.pending.take numBytes).length ≤ (vectorResize buf numBytes).length := by
            simp
          simp only [pure_bind_apply, modify_bind_apply, modifyGet_bind_apply, hnat, hne, hpos, hp,
            Bool.true_eq_false, if_false, if_true, map_modify_apply, pure_apply, hk, vectorResize_overwrite hfit]
        · obtain rfl : numBytes = 0 := by omega
          have hz : min (0 : Int) bio.pending.length = 0 := by omega
          simp [hnat, hz, hp, vectorResize]
/-- The line `BIO_gets` takes for `_BIO_gets`, with its NUL, fits in the
caller's buffer, or in one byte when the buffer is empty. -/
theorem length_gets_line_lt {buf : List UInt8} (l : List UInt8)
    (h : ¬wrapSigned 32 buf.length < 0) :
    (takeLine (l.take (wrapSigned 32 buf.length - 1).toNat)).length < max buf.length 1 := by
  have := length_takeLine_le (l.take (wrapSigned 32 buf.length - 1).toNat)
  simp only [List.length_take, wrapSigned_32_natCast] at h this ⊢
  split at h <;> omega

/-- `_BIO_gets` hands `BIO_gets` the buffer's size as an `int`. A negative size
is refused with `-1`. Otherwise the line it takes and a NUL are written at the
start of the buffer, which for an empty buffer is a write through `nullptr`. -/
theorem _BIO_gets_eq (bio : bio_st) (buf : List UInt8) :
    _BIO_gets (bio, buf) =
      if bio.method.bgets = false then
        .error (.openSSLExceptionWith "Method 'gets' not implemented for this BIO") (bio, buf)
      else if wrapSigned 32 buf.length < 0 then .ok (-1) (bio, buf)
      else if buf = [] then .error .outOfBoundsWrite (bio, buf)
      else
        let line := takeLine (bio.pending.take (wrapSigned 32 buf.length - 1).toNat)
        .ok line.length
          ({ bio with pending := bio.pending.drop line.length }, overwrite buf (line ++ [0])) := by
  unfold _BIO_gets
  cases hg : bio.method.bgets
  · simp [SSL_BIO_gets, hg, writeBuffer]
  · by_cases hs : wrapSigned 32 buf.length < 0
    · simp [SSL_BIO_gets, hg, hs, writeBuffer]
    · by_cases hb : buf = []
      · subst hb
        simp only [get_bind_apply, SSL_BIO_gets, hg, Bool.true_eq_false, hs, ↓reduceIte]
        rfl
      · have hfit := length_gets_line_lt bio.pending hs
        have hlen : 0 < buf.length := List.length_pos.mpr hb
        have htoNat : (wrapSigned 32 buf.length - 1).toNat = (wrapSigned 32 buf.length).toNat - 1 := by
          omega
        rw [htoNat] at hfit
        have : ((takeLine (bio.pending.take ((wrapSigned 32 buf.length).toNat - 1))).length : Int)
            ≠ -2 := by omega
        simp [SSL_BIO_gets, hg, hs, hb, writeBuffer, this, show
          (takeLine (bio.pending.take ((wrapSigned 32 buf.length).toNat - 1))).length + 1 ≤
            buf.length by omega]

/-- **An empty buffer makes `BIO_gets` write past its end.** What `_BIO_gets`
asks `BIO_gets` to write fits in the caller's buffer exactly when the buffer is
not empty: an empty buffer is passed as size `0`, and `BIO_gets` still writes
its NUL terminator at the buffer's start. -/
theorem _BIO_gets_write_fits_iff (bio : bio_st) (buf : List UInt8) (hg : bio.method.bgets = true) :
    (SSL_BIO_gets bio (wrapSigned 32 buf.length)).2.1.length ≤ buf.length ↔ buf ≠ [] := by
  rw [← List.length_pos]
  by_cases hs : wrapSigned 32 buf.length < 0
  · have : 0 < buf.length := by
      rcases buf with _ | ⟨_, _⟩
      · exact absurd hs (by decide)
      · simp
    simp [SSL_BIO_gets, hg, hs, this]
  · have := length_gets_line_lt bio.pending hs
    simp only [SSL_BIO_gets, hg, hs, Bool.not_true, Bool.false_eq_true, if_false,
      List.length_append, List.length_singleton]
    omega

theorem _BIO_gets_write_fits_iff_empty :
    SSL_BIO_s_mem.bgets = true ∧
      ((SSL_BIO_gets ⟨SSL_BIO_s_mem, [104, 105, 10]⟩ (wrapSigned 32 ([] : List UInt8).length)).2.1.length
          ≤ ([] : List UInt8).length ↔ ([] : List UInt8) ≠ []) :=
  ⟨rfl, _BIO_gets_write_fits_iff ⟨SSL_BIO_s_mem, [104, 105, 10]⟩ [] rfl⟩

/-! ## One call, then a run

What a call moves is stated from the caller's side: the bytes a `write` or a
`puts` hands to the `BIO`, and the bytes a `read` or a `gets` hands back (the
buffer a read leaves, the line before the NUL that `gets` writes). -/

/-- The bytes a call hands to the `BIO`. -/
def stored : BioCall → List UInt8
  | .write data => data
  | .puts buf => buf.takeWhile (· ≠ 0)
  | .read _ _ | .gets _ => []

/-- The bytes a call hands back, given what it returned. -/
def handedBack : BioCall → Int × List UInt8 → List UInt8
  | .read _ _, (_, buf) => buf
  | .gets _, (rv, buf) => buf.take rv.toNat
  | .write _, _ | .puts _, _ => []

/-- How many bytes a call moved, either way. -/
def moved (c : BioCall) (r : Int × List UInt8) : Nat :=
  (stored c).length + (handedBack c r).length

/-- The calls that find nothing to read, given what is pending: a read of an
empty `BIO`, and a `gets` whose buffer size is negative as an `int`. -/
def findsNothing : BioCall → List UInt8 → Bool
  | .read _ _, pending => pending.isEmpty
  | .gets buf, _ => decide (wrapSigned 32 buf.length < 0)
  | .write _, _ | .puts _, _ => false

/-- **What a memory `BIO` is for: a byte queue.** `QueueRun p calls rs p'` says
that from the bytes `p` pending, the calls returned `rs` and left `p'` pending,
each handing back bytes from the front of what was pending, appending what it
stored, and returning the count of bytes it moved, or `-1` exactly when it found
nothing to read. -/
inductive QueueRun : List UInt8 → List BioCall → List (Int × List UInt8) → List UInt8 → Prop
  | nil (p : List UInt8) : QueueRun p [] [] p
  | cons {p p' p'' : List UInt8} {c : BioCall} {cs : List BioCall} {r : Int × List UInt8}
      {rs : List (Int × List UInt8)} (hmove : p ++ stored c = handedBack c r ++ p')
      (hrv : r.1 = if findsNothing c p then -1 else (moved c r : Int))
      (hrest : QueueRun p' cs rs p'') : QueueRun p (c :: cs) (r :: rs) p''

/-- A byte queue loses, duplicates and reorders nothing: the bytes handed back,
in order, followed by what is left, are what was pending followed by what was
stored, in order. -/
theorem QueueRun.conserves {p p' : List UInt8} {cs : List BioCall}
    {rs : List (Int × List UInt8)} (h : QueueRun p cs rs p') :
    p ++ (cs.map stored).flatten = (List.zipWith handedBack cs rs).flatten ++ p' := by
  induction h with
  | nil p => simp
  | cons hmove _ _ ih =>
    simp only [List.map_cons, List.flatten_cons, List.zipWith_cons_cons]
    rw [← List.append_assoc, hmove, List.append_assoc, ih, List.append_assoc]

/-- A `gets` that took `line` from the front of what was pending hands back that
line and returns its length, when the line fits in the buffer. -/
theorem gets_line_moved {buf line pending : List UInt8} (hpre : line <+: pending)
    (h : line.length ≤ buf.length) :
    pending ++ stored (.gets buf) =
      handedBack (.gets buf) (line.length, overwrite buf (line ++ [0])) ++
        pending.drop line.length ∧
    (line.length : Int) = moved (.gets buf) (line.length, overwrite buf (line ++ [0])) := by
  simp only [moved, stored, handedBack, Int.toNat_natCast, take_overwrite_line h,
    List.append_nil, List.length_nil, Nat.zero_add, and_true]
  exact (List.prefix_iff_eq_append.mp hpre).symm

/-- Everything one call can do: throw and leave the `BIO` as it was, or return
having handed back bytes from the front of what was pending and appended what
it stored, its value the count of bytes it moved, or `-1` exactly when it found
nothing to read. -/
theorem BioCall.run_cases (c : BioCall) (bio : bio_st) :
    (∃ e, c.run bio = .error e bio) ∨
    ∃ r bio', c.run bio = .ok r bio' ∧
      bio.pending ++ stored c = handedBack c r ++ bio'.pending ∧
      r.1 = if findsNothing c bio.pending then -1 else (moved c r : Int) := by
  cases c with
  | write data =>
    simp only [BioCall.run, _BIO_write_eq, findsNothing, Bool.false_eq_true, if_false]
    split_ifs
    · exact .inl ⟨_, rfl⟩
    · exact .inl ⟨_, rfl⟩
    · exact .inr ⟨_, _, rfl, by simp [stored, handedBack], by simp [moved, stored, handedBack]⟩
  | puts buf =>
    simp only [BioCall.run, _BIO_puts_eq, findsNothing, Bool.false_eq_true, if_false]
    split_ifs
    · exact .inl ⟨_, rfl⟩
    · exact .inr ⟨_, _, rfl, by simp [stored, handedBack], by simp [moved, stored, handedBack]⟩
  | read buf numBytes =>
    simp only [BioCall.run, withBuffer, _BIO_read_eq, findsNothing, List.isEmpty_iff]
    split_ifs with _ _ hp
    any_goals exact .inl ⟨_, rfl⟩
    · exact .inr ⟨_, _, rfl, by simp [stored, handedBack, hp], rfl⟩
    · refine .inr ⟨_, _, rfl, by simp [stored, handedBack], ?_⟩
      simp only [moved, stored, handedBack, List.length_take, List.length_nil]
      omega
  | gets buf =>
    simp only [BioCall.run, withBuffer, _BIO_gets_eq, findsNothing, decide_eq_true_eq]
    by_cases hg : bio.method.bgets = false
    · exact .inl ⟨_, by simp only [if_pos hg]; rfl⟩
    by_cases hs : wrapSigned 32 buf.length < 0
    · exact .inr ⟨(-1, buf), bio, by simp only [if_neg hg, if_pos hs],
        by simp [stored, handedBack], by simp only [if_pos hs]⟩
    by_cases hb : buf = []
    · exact .inl ⟨_, by simp only [if_neg hg, if_neg hs, if_pos hb]; rfl⟩
    have hpre := (takeLine_prefix_self _).trans
      (List.take_prefix ((wrapSigned 32 buf.length - 1).toNat) bio.pending)
    have hfit : (takeLine (bio.pending.take (wrapSigned 32 buf.length - 1).toNat)).length
        ≤ buf.length := by
      have := length_gets_line_lt bio.pending hs
      have := List.length_pos.mpr hb
      omega
    obtain ⟨hcons, hcount⟩ := gets_line_moved hpre hfit
    simp only [if_neg hg, if_neg hs, if_neg hb]
    exact .inr ⟨_, _, rfl, by simpa only using hcons, by simpa only using hcount⟩

/-- After a call that throws, the run throws the same. -/
theorem runBio_cons_of_error {c : BioCall} {cs : List BioCall} {bio bio₁ : bio_st} {e : Error}
    (he : c.run bio = .error e bio₁) : runBio (c :: cs) bio = .error e bio₁ := by
  rw [runBio, bind_apply_of_error he]

/-- After a call that returns, the run goes on from the `BIO` it left. -/
theorem runBio_cons_of_ok {c : BioCall} {cs : List BioCall} {bio bio₁ : bio_st}
    {r : Int × List UInt8} (hr : c.run bio = .ok r bio₁) :
    runBio (c :: cs) bio = match runBio cs bio₁ with
      | .ok rs bio' => .ok (r :: rs) bio'
      | .error e bio' => .error e bio' := by
  rw [runBio, bind_apply_of_ok hr]
  cases hcs : runBio cs bio₁ with
  | ok rs bio' => rw [bind_apply_of_ok hcs]; rfl
  | error e bio' => rw [bind_apply_of_error hcs]

/-- A run that returns is a run of the byte queue. -/
theorem runBio_queueRun {calls : List BioCall} {bio bio' : bio_st}
    {rs : List (Int × List UInt8)} (h : runBio calls bio = .ok rs bio') :
    QueueRun bio.pending calls rs bio'.pending := by
  induction calls generalizing bio rs with
  | nil => cases h; exact .nil _
  | cons c cs ih =>
    rcases BioCall.run_cases c bio with ⟨e, he⟩ | ⟨r, bio₁, hr, hmove, hrv⟩
    · rw [runBio_cons_of_error he] at h
      cases h
    · rw [runBio_cons_of_ok hr] at h
      split at h <;> cases h
      exact .cons hmove hrv (ih ‹_›)

/-- A run that throws leaves the `BIO` as the calls before the failing one left it. -/
theorem runBio_error_prefix {calls : List BioCall} {bio bio' : bio_st} {e : Error}
    (h : runBio calls bio = .error e bio') :
    ∃ n < calls.length, ∃ rs, runBio (calls.take n) bio = .ok rs bio' := by
  induction calls generalizing bio with
  | nil => cases h
  | cons c cs ih =>
    rcases BioCall.run_cases c bio with ⟨e', he⟩ | ⟨r, bio₁, hr, -, -⟩
    · rw [runBio_cons_of_error he] at h
      cases h
      exact ⟨0, by simp, [], rfl⟩
    · rw [runBio_cons_of_ok hr] at h
      split at h <;> cases h
      obtain ⟨n, hn, rs, hpre⟩ := ih ‹_›
      refine ⟨n + 1, by simp [hn], r :: rs, ?_⟩
      rw [List.take_succ_cons, runBio_cons_of_ok hr, hpre]

/-- Three bytes and a newline written, then a line read into an 8-byte buffer,
then the rest read. -/
example : runBio [.write [104, 105, 10, 33], .gets (List.replicate 8 0), .read [] 4]
    ⟨SSL_BIO_s_mem, []⟩ =
    .ok [(4, []), (3, [104, 105, 10, 0, 0, 0, 0, 0]), (1, [33])] ⟨SSL_BIO_s_mem, []⟩ := rfl

/-- A line read into an empty buffer writes its NUL out of bounds. -/
example : runBio [.write [104, 10], .gets []] ⟨SSL_BIO_s_mem, []⟩ =
    .error .outOfBoundsWrite ⟨SSL_BIO_s_mem, [104, 10]⟩ := rfl

end MoCOCrW.Bio
