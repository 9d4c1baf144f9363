/-
# `Rs1722.Lib.Bitstream` — a big-endian bit stream over bytes, as an interface

A bit-stream library sits between a codec and its bytes.  What a codec relies on is small:
a read of an `n`-bit field returns the next `n` bits as a big-endian number or runs out; a
write appends them.  `BitstreamIo` is that contract: the operations, a *view* of each
reader and writer as the bits ahead of it or behind it, and the laws that tie the two.
Everything below it is proved from the laws, so it holds of any library that keeps them;
`BitstreamIo.bits` is one that does.

Two judgements carry the codec proofs.  Both compose along a bind, so a codec's theorem is
assembled from its fields.

    Takes io e d n P     d takes exactly n bits or runs out; the bits it took and the value
                         it returned are related by P.  e is how many bits past a byte
                         boundary the stream stands afterwards, counted from the end.
    Puts io s w bs       w appends exactly bs to a writer that stands s bits past a byte
                         boundary, wherever bs still fits.

The phases `e` and `s` are there because a codec may assert that it is byte-aligned.
-/
import Rs1722.Lib.Bits
import Rs1722.Lib.StdIo

namespace Lib

/-! ## The contract -/

/-- A read that takes an `n`-bit field, most significant bit first, or runs out. -/
def FieldOf {R α : Type} (ahead : R → List Bool) (rd : Act R IoError α) (n : Nat)
    (bits : α → List Bool) : Prop :=
  ∀ r, ((ahead r).length < n → (rd r).1 = .err .unexpectedEof) ∧
    (n ≤ (ahead r).length →
      ∃ a r', rd r = (.ok a, r') ∧ ahead r = bits a ++ ahead r' ∧ (bits a).length = n)

/-- `n` bits fit a writer over a buffer of `cap` bits; a growable buffer has no `cap`. -/
def Fits (cap : Option Nat) (n : Nat) : Prop := ∀ c, cap = some c → n ≤ c

/-- A write that appends `bits` wherever they still fit. -/
def AppendOf {W : Type} (written : W → List Bool) (capacity : W → Option Nat)
    (wr : Act W IoError Unit) (bits : List Bool) : Prop :=
  ∀ w, Fits (capacity w) ((written w).length + bits.length) →
    ∃ w', wr w = (.ok (), w') ∧ written w' = written w ++ bits ∧ capacity w' = capacity w

structure BitstreamIo where
  Reader : Type
  Writer : Type
  /-- A reader over a byte string. -/
  reader : List UInt8 → Reader
  /-- A field of `n` bits. -/
  read : (n : Nat) → Act Reader IoError (BitVec n)
  /-- A single bit. -/
  readBit : Act Reader IoError Bool
  /-- An unsigned integer type of `n` bits, whole. -/
  readTo : (n : Nat) → Act Reader IoError (BitVec n)
  /-- An array of `n` bytes, whole. -/
  readArray : (n : Nat) → Act Reader IoError (Vector UInt8 n)
  /-- Fills a buffer of `n` bytes. -/
  readBytes : (n : Nat) → Act Reader IoError (List UInt8)
  readerAligned : Reader → Bool
  /-- The bytes the source still holds. -/
  unread : Reader → List UInt8
  /-- A writer over a growable buffer that holds these bytes. -/
  writer : List UInt8 → Writer
  /-- A writer over an array of `n` zero bytes. -/
  sliceWriter : Nat → Writer
  write : (n : Nat) → Nat → Act Writer IoError Unit
  writeBit : Bool → Act Writer IoError Unit
  writeFrom : (n : Nat) → Nat → Act Writer IoError Unit
  writeBytes : List UInt8 → Act Writer IoError Unit
  /-- Zero bits up to the next byte boundary. -/
  byteAlign : Act Writer IoError Unit
  writerAligned : Writer → Bool
  /-- The bytes the sink was handed so far, after those it already held. -/
  buffer : Writer → List UInt8
  /-- The bits ahead of a reader. -/
  ahead : Reader → List Bool
  /-- The bits behind a writer, those of the bytes its buffer held included. -/
  written : Writer → List Bool
  /-- The size in bits of a writer's buffer, if it cannot grow. -/
  capacity : Writer → Option Nat
  ahead_reader : ∀ bs, ahead (reader bs) = bytesBits bs
  read_spec : ∀ n, FieldOf ahead (read n) n (fun v => natBits n v.toNat)
  readBit_spec : FieldOf ahead readBit 1 (fun b => [b])
  readTo_spec : ∀ n, FieldOf ahead (readTo n) n (fun v => natBits n v.toNat)
  readArray_spec : ∀ n, FieldOf ahead (readArray n) (8 * n) (fun v => bytesBits v.toList)
  readBytes_spec : ∀ n, FieldOf ahead (readBytes n) (8 * n) bytesBits
  readerAligned_iff : ∀ r, readerAligned r = true ↔ (ahead r).length % 8 = 0
  unread_spec : ∀ r, bytesBits (unread r) = (ahead r).drop ((ahead r).length % 8)
  written_writer : ∀ bs, written (writer bs) = bytesBits bs
  capacity_writer : ∀ bs, capacity (writer bs) = none
  written_sliceWriter : ∀ n, written (sliceWriter n) = []
  capacity_sliceWriter : ∀ n, capacity (sliceWriter n) = some (8 * n)
  write_spec : ∀ n v, v < 2 ^ n → AppendOf written capacity (write n v) (natBits n v)
  write_excess : ∀ n v w, 2 ^ n ≤ v → ∃ text, (write n v w).1 = .err (.invalidInput text)
  writeBit_spec : ∀ b, AppendOf written capacity (writeBit b) [b]
  writeFrom_spec : ∀ n v, v < 2 ^ n → AppendOf written capacity (writeFrom n v) (natBits n v)
  writeBytes_spec : ∀ bs, AppendOf written capacity (writeBytes bs) (bytesBits bs)
  byteAlign_spec : ∀ k, ∀ w, ((written w).length + k) % 8 = 0 → k < 8 →
    Fits (capacity w) ((written w).length + k) →
    ∃ w', byteAlign w = (.ok (), w') ∧ written w' = written w ++ List.replicate k false ∧
      capacity w' = capacity w
  writerAligned_iff : ∀ w, writerAligned w = true ↔ (written w).length % 8 = 0
  buffer_spec : ∀ w,
    bytesBits (buffer w) = (written w).take ((written w).length - (written w).length % 8)

variable (io : BitstreamIo)

def BitstreamIo.array (n : Nat) (w : io.Writer) : Vector UInt8 n :=
  Vector.ofFn fun i => (io.buffer w).getD i 0

/-! ## Decoders -/

section Takes
variable {io} {ε ε' α β : Type} {eof : ε}

/-- `d` takes exactly `n` bits, related to its value by `P`, or runs out; it ends `e` bits
short of a byte boundary. -/
def Takes (io : BitstreamIo) (eof : ε) (e : Nat) (d : Act io.Reader ε α) (n : Nat)
    (P : α → List Bool → Prop) : Prop :=
  ∀ r, (io.ahead r).length % 8 = (n + e) % 8 →
    ((io.ahead r).length < n → (d r).1 = .err eof) ∧
    (n ≤ (io.ahead r).length →
      ∃ a r' bs, d r = (.ok a, r') ∧ io.ahead r = bs ++ io.ahead r' ∧ bs.length = n ∧ P a bs)

theorem Takes.of_field {rd : Act io.Reader IoError α} {n : Nat} {bits : α → List Bool}
    (h : FieldOf io.ahead rd n bits) (e : Nat) :
    Takes io .unexpectedEof e rd n (fun a bs => bs = bits a) := by
  intro r _
  refine ⟨(h r).1, fun hn => ?_⟩
  obtain ⟨a, r', hrd, hbits, hlen⟩ := (h r).2 hn
  exact ⟨a, r', bits a, hrd, hbits, hlen, rfl⟩

variable (io eof) in
theorem takes_pure (e : Nat) (a : α) :
    Takes io eof e (pure a : Act io.Reader ε α) 0 (fun b bs => b = a ∧ bs = []) := by
  intro r _
  refine ⟨fun h => absurd h (Nat.not_lt_zero _), fun _ => ?_⟩
  exact ⟨a, r, [], rfl, rfl, rfl, rfl, rfl⟩

/-- A step that reads nothing and returns `Ok` wherever the stream stands `e` bits short of
a byte boundary. -/
theorem takes_check {e : Nat} {d : Act io.Reader ε Unit}
    (h : ∀ r, (io.ahead r).length % 8 = e % 8 → d r = (.ok (), r)) :
    Takes io eof e d 0 (fun _ bs => bs = []) := by
  intro r hr
  refine ⟨fun h => absurd h (Nat.not_lt_zero _), fun _ => ?_⟩
  exact ⟨(), r, [], h r (by simpa using hr), rfl, rfl, rfl⟩

theorem Takes.bind {d : Act io.Reader ε α} {k : α → Act io.Reader ε β} {n m e : Nat}
    {P : α → List Bool → Prop} {Q : α → β → List Bool → Prop}
    (hd : Takes io eof (m + e) d n P) (hk : ∀ a, Takes io eof e (k a) m (Q a)) :
    Takes io eof e (d >>= k) (n + m)
      (fun b bs => ∃ a b₁ b₂, bs = b₁ ++ b₂ ∧ P a b₁ ∧ Q a b b₂) := by
  intro r hr
  have hd := hd r (by omega)
  by_cases hn : (io.ahead r).length < n
  · refine ⟨fun _ => ?_, fun h => absurd h (by omega)⟩
    rcases hdr : d r with ⟨x, r'⟩
    have hx : x = .err eof := by
      have := hd.1 hn
      rwa [hdr] at this
    rw [Act.bind_of_err (hx ▸ hdr)]
  · obtain ⟨a, r', b₁, hdr, hbits, hlen, hP⟩ := hd.2 (by omega)
    have hsplit : (io.ahead r).length = n + (io.ahead r').length := by
      rw [hbits, List.length_append, hlen]
    have hk := hk a r' (by omega)
    rw [Act.bind_of_ok hdr]
    refine ⟨fun h => hk.1 (by omega), fun h => ?_⟩
    obtain ⟨b, r'', b₂, hkr, hbits', hlen', hQ⟩ := hk.2 (by omega)
    refine ⟨b, r'', b₁ ++ b₂, hkr, ?_, by rw [List.length_append, hlen, hlen'], ?_⟩
    · rw [hbits, hbits', List.append_assoc]
    · exact ⟨a, b₁, b₂, rfl, hP, hQ⟩

theorem Takes.mono {d : Act io.Reader ε α} {n e : Nat} {P Q : α → List Bool → Prop}
    (h : Takes io eof e d n P) (hPQ : ∀ a bs, P a bs → Q a bs) : Takes io eof e d n Q := by
  intro r hr
  refine ⟨(h r hr).1, fun hn => ?_⟩
  obtain ⟨a, r', bs, hdr, hbits, hlen, hP⟩ := (h r hr).2 hn
  exact ⟨a, r', bs, hdr, hbits, hlen, hPQ a bs hP⟩

theorem Takes.field {rd : Act io.Reader IoError α} {k : α → Act io.Reader IoError β}
    {n m e : Nat} {bits : α → List Bool} {Q : α → β → List Bool → Prop}
    (h : FieldOf io.ahead rd n bits) (hk : ∀ a, Takes io .unexpectedEof e (k a) m (Q a)) :
    Takes io .unexpectedEof e (rd >>= k) (n + m)
      (fun b bs => ∃ a bs', bs = bits a ++ bs' ∧ Q a b bs') := by
  refine Takes.mono ((Takes.of_field h (m + e)).bind hk) ?_
  rintro b bs ⟨a, _, bs', hbs, rfl, hQ⟩
  exact ⟨a, bs', hbs, hQ⟩

theorem Takes.after {d : Act io.Reader ε Unit} {k : Unit → Act io.Reader ε β} {m e : Nat}
    {Q : β → List Bool → Prop} (h : Takes io eof (m + e) d 0 (fun _ bs => bs = []))
    (hk : ∀ u, Takes io eof e (k u) m Q) : Takes io eof e (d >>= k) m Q := by
  have hb := Takes.bind (Q := fun _ => Q) h hk
  rw [Nat.zero_add] at hb
  refine Takes.mono hb ?_
  rintro b bs ⟨_, _, b₂, rfl, rfl, hQ⟩
  exact hQ

/-- A fixed part of `n` bits that announces how many bytes follow it, and those bytes. -/
theorem Takes.lengthPrefixed {d : Act io.Reader ε α} {k : α → Act io.Reader ε β} {n : Nat}
    {len : α → Nat} {P : α → List Bool → Prop} {Q : α → β → List Bool → Prop}
    (hd : Takes io eof 0 d n P) (hk : ∀ a, Takes io eof 0 (k a) (8 * len a) (Q a))
    {r : io.Reader} (hr : (io.ahead r).length % 8 = n % 8) :
    ((io.ahead r).length < n → ((d >>= k) r).1 = .err eof) ∧
    (n ≤ (io.ahead r).length → ∃ a bs post, io.ahead r = bs ++ post ∧ bs.length = n ∧ P a bs ∧
      (post.length < 8 * len a → ((d >>= k) r).1 = .err eof) ∧
      (8 * len a ≤ post.length → ∃ b r' bs', (d >>= k) r = (.ok b, r') ∧
        post = bs' ++ io.ahead r' ∧ bs'.length = 8 * len a ∧ Q a b bs')) := by
  refine ⟨fun hn => ?_, fun hn => ?_⟩
  · have herr := (hd r hr).1 hn
    rcases hdr : d r with ⟨x, r'⟩
    obtain rfl : x = .err eof := by
      rw [hdr] at herr
      exact herr
    rw [Act.bind_of_err hdr]
  · obtain ⟨a, r', bs, hdr, hbits, hlen, hP⟩ := (hd r hr).2 hn
    have hsplit : (io.ahead r).length = n + (io.ahead r').length := by
      rw [hbits, List.length_append, hlen]
    have hk := hk a r' (by omega)
    refine ⟨a, bs, io.ahead r', hbits, hlen, hP, ?_, ?_⟩ <;> rw [Act.bind_of_ok hdr]
    · exact hk.1
    · exact hk.2

end Takes

/-! ## Encoders -/

section Puts
variable {io} {ε ε' α : Type}

/-- `w` appends exactly `bs` to a writer `s` bits past a byte boundary. -/
def Puts (io : BitstreamIo) (s : Nat) (w : Act io.Writer ε Unit) (bs : List Bool) : Prop :=
  ∀ w₀, (io.written w₀).length % 8 = s % 8 →
    Fits (io.capacity w₀) ((io.written w₀).length + bs.length) →
    ∃ w₁, w w₀ = (.ok (), w₁) ∧ io.written w₁ = io.written w₀ ++ bs ∧
      io.capacity w₁ = io.capacity w₀

theorem Fits.mono {cap : Option Nat} {m n : Nat} (h : Fits cap n) (hmn : m ≤ n) : Fits cap m :=
  fun c hc => le_trans hmn (h c hc)

theorem fits_growable (n : Nat) : Fits none n := fun _ h => nomatch h

theorem fits_some {c n : Nat} (h : n ≤ c) : Fits (some c) n := by
  rintro _ ⟨⟩
  exact h

theorem Puts.of_append {wr : Act io.Writer IoError Unit} {bs : List Bool}
    (h : AppendOf io.written io.capacity wr bs) (s : Nat) : Puts io s wr bs :=
  fun w₀ _ hfit => h w₀ hfit

theorem puts_byteAlign {s k : Nat} (hk : (s + k) % 8 = 0) (hlt : k < 8) :
    Puts io s io.byteAlign (List.replicate k false) := by
  intro w₀ hs hfit
  rw [List.length_replicate] at hfit
  exact io.byteAlign_spec k w₀ (by omega) hlt hfit

theorem puts_pure (s : Nat) : Puts io s (pure () : Act io.Writer ε Unit) [] := by
  intro w₀ _ _
  exact ⟨w₀, rfl, (List.append_nil _).symm, rfl⟩

theorem puts_check {s : Nat} {w : Act io.Writer ε Unit}
    (h : ∀ w₀, (io.written w₀).length % 8 = s % 8 → w w₀ = (.ok (), w₀)) :
    Puts io s w [] := by
  intro w₀ hs _
  exact ⟨w₀, h w₀ hs, (List.append_nil _).symm, rfl⟩

theorem Puts.bind {w : Act io.Writer ε Unit} {k : Unit → Act io.Writer ε Unit} {s : Nat}
    {b₁ b₂ : List Bool} (hw : Puts io s w b₁) (hk : Puts io (s + b₁.length) (k ()) b₂) :
    Puts io s (w >>= k) (b₁ ++ b₂) := by
  intro w₀ hs hfit
  rw [List.length_append] at hfit
  obtain ⟨w₁, hw₁, hbits, hcap⟩ := hw w₀ hs (hfit.mono (by omega))
  have hlen : (io.written w₁).length = (io.written w₀).length + b₁.length := by
    rw [hbits, List.length_append]
  obtain ⟨w₂, hw₂, hbits', hcap'⟩ := hk w₁ (by omega) (by
    rw [hcap, hlen]
    exact hfit.mono (by omega))
  refine ⟨w₂, ?_, ?_, hcap'.trans hcap⟩
  · rw [Act.bind_of_ok hw₁]
    exact hw₂
  · rw [hbits', hbits, List.append_assoc]

theorem Puts.mapErr {w : Act io.Writer ε Unit} {s : Nat} {bs : List Bool} (h : Puts io s w bs)
    (f : ε → ε') : Puts io s (Act.mapErr f w) bs := by
  intro w₀ hs hfit
  obtain ⟨w₁, hw₁, hrest⟩ := h w₀ hs hfit
  exact ⟨w₁, Act.mapErr_ok_iff.mpr hw₁, hrest⟩

theorem Puts.unwrap {w : Act io.Writer ε Unit} {s : Nat} {bs : List Bool} (h : Puts io s w bs) :
    Puts io s (Act.unwrap w : Act io.Writer ε' Unit) bs := by
  intro w₀ hs hfit
  obtain ⟨w₁, hw₁, hrest⟩ := h w₀ hs hfit
  refine ⟨w₁, ?_, hrest⟩
  rw [Act.unwrap_apply, hw₁]
  rfl

theorem Puts.congr {w : Act io.Writer ε Unit} {s : Nat} {bs bs' : List Bool}
    (h : Puts io s w bs) (hbs : bs = bs') : Puts io s w bs' := hbs ▸ h

theorem Puts.after {w : Act io.Writer ε Unit} {k : Unit → Act io.Writer ε Unit} {s : Nat}
    {bs : List Bool} (hw : Puts io s w []) (hk : Puts io s (k ()) bs) : Puts io s (w >>= k) bs :=
  Puts.bind hw hk

theorem BitstreamIo.buffer_of_aligned {w : io.Writer} {bs : List UInt8}
    (h : io.written w = bytesBits bs) : io.buffer w = bs := by
  apply bytesBits_inj
  rw [io.buffer_spec, h, bytesBits_length]
  have : 8 * bs.length - 8 * bs.length % 8 = (bytesBits bs).length := by
    rw [bytesBits_length]
    omega
  rw [this, List.take_length]

theorem BitstreamIo.bytesBits_buffer {w : io.Writer} (h : io.writerAligned w = true) :
    bytesBits (io.buffer w) = io.written w := by
  rw [io.buffer_spec, (io.writerAligned_iff w).mp h, Nat.sub_zero, List.take_length]

/-- Whole bytes, written from a byte boundary, are what the sink is handed next. -/
theorem Puts.bytes {w : Act io.Writer ε Unit} {bytes : List UInt8}
    (h : Puts io 0 w (bytesBits bytes)) {w₀ : io.Writer} (hal : io.writerAligned w₀ = true)
    (hfit : Fits (io.capacity w₀) ((io.written w₀).length + 8 * bytes.length)) :
    ∃ w₁, w w₀ = (.ok (), w₁) ∧ io.writerAligned w₁ = true ∧
      io.buffer w₁ = io.buffer w₀ ++ bytes := by
  have hstart := (io.writerAligned_iff w₀).mp hal
  obtain ⟨w₁, hw, hbits, -⟩ := h w₀ hstart (by rwa [bytesBits_length])
  refine ⟨w₁, hw, ?_, ?_⟩
  · rw [io.writerAligned_iff, hbits, List.length_append, bytesBits_length]
    omega
  · apply io.buffer_of_aligned
    rw [hbits, bytesBits_append, io.bytesBits_buffer hal]

end Puts

/-! ## Whole byte arrays -/

section Arrays
variable {ε α : Type}

def BitstreamIo.readFrom (bytes : List UInt8) (d : Act io.Reader ε α) : Outcome ε α :=
  (d (io.reader bytes)).1

/-- The array of `n` bytes a write fills. -/
def BitstreamIo.fillArray (n : Nat) (w : Act io.Writer ε Unit) : Outcome ε (Vector UInt8 n) := do
  let (x, w₁) := w (io.sliceWriter n)
  x
  return io.array n w₁

variable {io}

/-- A decoder of exactly the string's bits does not run out, so an `unwrap` on it returns. -/
theorem Takes.readFrom_unwrap {δ : Type} {eof : ε} {d : Act io.Reader ε α} {n : Nat}
    {P : α → List Bool → Prop} (h : Takes io eof 0 d n P) (bytes : List UInt8)
    (hn : 8 * bytes.length = n) :
    ∃ a, io.readFrom bytes (Act.unwrap d : Act io.Reader δ α) = .ok a ∧
      P a (bytesBits bytes) := by
  have hahead : io.ahead (io.reader bytes) = bytesBits bytes := io.ahead_reader bytes
  have hlen : (bytesBits bytes).length = n := by rw [bytesBits_length, hn]
  obtain ⟨a, r', bs, hd, hbits, hbs, hP⟩ :=
    (h (io.reader bytes) (by rw [hahead, hlen, Nat.add_zero])).2 (by rw [hahead, hlen])
  have hall : bytesBits bytes = bs := by
    rw [hahead] at hbits
    have hrest : (io.ahead r').length = 0 := by
      have := congrArg List.length hbits
      rw [List.length_append] at this
      omega
    rw [hbits, List.length_eq_zero_iff.mp hrest, List.append_nil]
  refine ⟨a, ?_, hall ▸ hP⟩
  rw [BitstreamIo.readFrom, Act.unwrap_apply, hd]
  rfl

theorem Puts.fillArray {w : Act io.Writer ε Unit} {n : Nat} {bs : List Bool}
    (h : Puts io 0 w bs) (hn : bs.length = 8 * n) :
    ∃ v : Vector UInt8 n, io.fillArray n w = .ok v ∧ bytesBits v.toList = bs := by
  have hwritten : io.written (io.sliceWriter n) = [] := io.written_sliceWriter n
  obtain ⟨w₁, hw, hbits, -⟩ := h (io.sliceWriter n) (by rw [hwritten]; rfl) (by
    rw [hwritten, io.capacity_sliceWriter]
    exact fits_some (by simp [hn]))
  rw [hwritten, List.nil_append] at hbits
  have hbytes : bytesBits (bitsBytes n bs) = bs := bytesBits_bitsBytes_eq hn
  have hbuf : io.buffer w₁ = bitsBytes n bs := io.buffer_of_aligned (hbits.trans hbytes.symm)
  refine ⟨io.array n w₁, ?_, ?_⟩
  · rw [BitstreamIo.fillArray, hw]
    rfl
  · have harray : (io.array n w₁).toList = bitsBytes n bs := by
      apply List.ext_getElem
      · simp
      · intro i hi hi'
        simp [BitstreamIo.array, hbuf, List.getD_eq_getElem?_getD]
    rw [harray, hbytes]

end Arrays

/-! ## A stream that keeps the contract: the bits themselves -/

/-- A writer as the bits written to it, and the size of its buffer. -/
structure BitSink where
  bits : List Bool
  cap : Option Nat
  deriving DecidableEq, Repr

namespace BitSink

def append (bs : List Bool) : Act BitSink IoError Unit := fun w =>
  if w.cap.all (fun c => w.bits.length + bs.length ≤ c) then
    (.ok (), { w with bits := w.bits ++ bs })
  else (.err .writeZero, w)

theorem append_spec (bs : List Bool) : AppendOf BitSink.bits BitSink.cap (append bs) bs := by
  intro w hfit
  have hall : w.cap.all (fun c => w.bits.length + bs.length ≤ c) = true := by
    rcases w with ⟨bits, _ | c⟩
    · rfl
    · simpa using hfit c rfl
  exact ⟨{ w with bits := w.bits ++ bs }, by rw [append, if_pos hall], rfl, rfl⟩

end BitSink

/-- Takes `n` bits and decodes them, or runs out. -/
def takeBits {α : Type} (n : Nat) (decode : List Bool → α) : Act (List Bool) IoError α := fun r =>
  if n ≤ r.length then (.ok (decode (r.take n)), r.drop n) else (.err .unexpectedEof, [])

theorem takeBits_spec {α : Type} {n : Nat} {decode : List Bool → α} {bits : α → List Bool}
    (h : ∀ bs : List Bool, bs.length = n → bits (decode bs) = bs) :
    FieldOf (fun r => r) (takeBits n decode) n bits := by
  intro r
  refine ⟨fun hn => ?_, fun hn => ?_⟩
  · rw [takeBits, if_neg (Nat.not_le_of_lt hn)]
  · have hlen : (r.take n).length = n := List.length_take_of_le hn
    refine ⟨decode (r.take n), r.drop n, by rw [takeBits, if_pos hn], ?_, ?_⟩
    · rw [h _ hlen, List.take_append_drop]
    · rw [h _ hlen, hlen]

theorem natBits_ofNat_bitsNat {n : Nat} {bs : List Bool} (h : bs.length = n) :
    natBits n (BitVec.ofNat n (bitsNat bs)).toNat = bs := by
  rw [BitVec.toNat_ofNat, natBits_mod, ← h]
  exact natBits_bitsNat bs

/-- The reference stream: a reader is the bits ahead of it, a writer the bits behind it. -/
def BitstreamIo.bits : BitstreamIo where
  Reader := List Bool
  Writer := BitSink
  reader := bytesBits
  read n := takeBits n fun bs => BitVec.ofNat n (bitsNat bs)
  readBit := takeBits 1 fun bs => bs.headD false
  readTo n := takeBits n fun bs => BitVec.ofNat n (bitsNat bs)
  readArray n := takeBits (8 * n) fun bs => ⟨(bitsBytes n bs).toArray, by simp⟩
  readBytes n := takeBits (8 * n) (bitsBytes n)
  readerAligned r := r.length % 8 == 0
  unread r := bitsBytes (r.length / 8) (r.drop (r.length % 8))
  writer bs := ⟨bytesBits bs, none⟩
  sliceWriter n := ⟨[], some (8 * n)⟩
  write n v := if v < 2 ^ n then BitSink.append (natBits n v)
    else Act.fail (.invalidInput "excessive value for bits written")
  writeBit b := BitSink.append [b]
  writeFrom n v := BitSink.append (natBits n v)
  writeBytes bs := BitSink.append (bytesBits bs)
  byteAlign w := BitSink.append (List.replicate ((8 - w.bits.length % 8) % 8) false) w
  writerAligned w := w.bits.length % 8 == 0
  buffer w := bitsBytes (w.bits.length / 8) w.bits
  ahead r := r
  written := BitSink.bits
  capacity := BitSink.cap
  ahead_reader _ := rfl
  read_spec _ := takeBits_spec fun _ => natBits_ofNat_bitsNat
  readBit_spec := takeBits_spec fun bs h => by
    obtain ⟨b, rfl⟩ := List.length_eq_one_iff.mp h
    rfl
  readTo_spec _ := takeBits_spec fun _ => natBits_ofNat_bitsNat
  readArray_spec _ := takeBits_spec fun _ h => bytesBits_bitsBytes_eq h
  readBytes_spec _ := takeBits_spec fun _ => bytesBits_bitsBytes_eq
  readerAligned_iff r := by simp
  unread_spec r := by
    have hlen : (r.drop (r.length % 8)).length = 8 * (r.length / 8) := by
      rw [List.length_drop]
      omega
    exact bytesBits_bitsBytes_eq hlen
  written_writer _ := rfl
  capacity_writer _ := rfl
  written_sliceWriter _ := rfl
  capacity_sliceWriter _ := rfl
  write_spec n v h := by
    rw [if_pos h]
    exact BitSink.append_spec _
  write_excess n v w h := ⟨"excessive value for bits written", by
    rw [if_neg (Nat.not_lt.mpr h)]
    rfl⟩
  writeBit_spec _ := BitSink.append_spec _
  writeFrom_spec _ _ _ := BitSink.append_spec _
  writeBytes_spec _ := BitSink.append_spec _
  byteAlign_spec k w hk hlt hfit := by
    have hpad : (8 - w.bits.length % 8) % 8 = k := by omega
    rw [hpad]
    exact BitSink.append_spec (List.replicate k false) w (by simpa using hfit)
  writerAligned_iff w := by simp
  buffer_spec w := by
    rw [bytesBits_bitsBytes _ (Nat.mul_div_le _ _)]
    congr 1
    omega

end Lib
