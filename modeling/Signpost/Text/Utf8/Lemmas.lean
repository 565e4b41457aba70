import Signpost.Text.Utf8

/-!
# Encoded texts

The bytes of a text are cut into its characters, and nothing is lost when bytes are cut. The main
statement is `decode?_eq_some_iff`: bytes are read as a text exactly if they were written for it.
The bytes have the order of the texts.
-/

namespace Signpost.Text

/-- The bytes that a chunk was cut from. -/
def Chunk.bytes : Chunk → Bytes
  | char c => String.utf8EncodeChar c
  | broken bytes => bytes

namespace Utf8

/-- A byte between the bounds of the bytes that follow is taken. -/
theorem chunksFrom_within {taken : Bytes} {value more : Nat} {low high b : UInt8} {rest : Bytes}
    (hlow : low.toNat ≤ b.toNat) (hhigh : b.toNat ≤ high.toNat) :
    chunksFrom (.within taken value low high more) (b :: rest) =
      match more with
      | 0 => .char (Char.ofNat (value * 64 + (b.toNat - 0x80))) :: chunksFrom .ready rest
      | more + 1 =>
        chunksFrom (.within (b :: taken) (value * 64 + (b.toNat - 0x80)) 0x80 0xBF more) rest := by
  have hb : low ≤ b ∧ b ≤ high := ⟨UInt8.le_iff_toNat_le.2 hlow, UInt8.le_iff_toNat_le.2 hhigh⟩
  cases more <;> simp [chunksFrom, hb]

/-- A lead byte opens a character. -/
theorem chunksFrom_lead {b low high : UInt8} {more : Nat} {rest : Bytes}
    (hb : 0x80 ≤ b.toNat) (h : second? b = some (low, high, more)) :
    chunksFrom .ready (b :: rest) = chunksFrom (.within [b] (leadBits b) low high more) rest := by
  have hnot : ¬ b < 0x80 := by
    simpa [UInt8.lt_iff_toNat_lt] using hb
  simp [chunksFrom, start, hnot, h]

/-- The bounds of the byte after a lead byte, in numbers. -/
theorem second?_eq (b : UInt8) : second? b =
    if 0xC2 ≤ b.toNat ∧ b.toNat ≤ 0xDF then some (0x80, 0xBF, 0)
    else if b.toNat = 0xE0 then some (0xA0, 0xBF, 1)
    else if b.toNat = 0xED then some (0x80, 0x9F, 1)
    else if 0xE1 ≤ b.toNat ∧ b.toNat ≤ 0xEF then some (0x80, 0xBF, 1)
    else if b.toNat = 0xF0 then some (0x90, 0xBF, 2)
    else if 0xF1 ≤ b.toNat ∧ b.toNat ≤ 0xF3 then some (0x80, 0xBF, 2)
    else if b.toNat = 0xF4 then some (0x80, 0x8F, 2)
    else none := by
  simp [second?, UInt8.le_iff_toNat_le, ← UInt8.toNat_inj]

theorem leadBits_eq (b : UInt8) : leadBits b =
    if b.toNat < 0xE0 then b.toNat - 0xC0
    else if b.toNat < 0xF0 then b.toNat - 0xE0
    else b.toNat - 0xF0 := by
  simp [leadBits, UInt8.lt_iff_toNat_lt]

/-- The bytes of a character are cut off as the character, whatever follows. -/
theorem chunksFrom_encodeChar (c : Char) (rest : Bytes) :
    chunksFrom .ready (String.utf8EncodeChar c ++ rest) = .char c :: chunksFrom .ready rest := by
  have hc : c.val.toNat < 0xD800 ∨ 0xDFFF < c.val.toNat ∧ c.val.toNat < 0x110000 := c.valid
  have hof : Char.ofNat c.val.toNat = c := Char.ofNat_toNat c
  have byte (n : Nat) (h : n < 256) : (UInt8.ofNat n).toNat = n := UInt8.toNat_ofNat_of_lt' h
  unfold String.utf8EncodeChar
  generalize c.val.toNat = v at *
  dsimp only
  split
  · have h0 := byte v (by omega)
    generalize UInt8.ofNat v = b0 at *
    have hb : b0 < 0x80 := by
      simp only [UInt8.lt_iff_toNat_lt, h0]
      exact Nat.lt_succ_of_le ‹_›
    simp [chunksFrom, start, hb, h0, hof]
  · split
    · have h0 := byte (v / 64 % 32 + 192) (by omega)
      have h1 := byte (v % 64 + 128) (by omega)
      generalize UInt8.ofNat (v / 64 % 32 + 192) = b0 at *
      generalize UInt8.ofNat (v % 64 + 128) = b1 at *
      have hlead : second? b0 = some (0x80, 0xBF, 0) := by
        rw [second?_eq, if_pos (by omega)]
      have hbits : leadBits b0 = v / 64 := by
        rw [leadBits_eq, if_pos (by omega)]
        omega
      simp only [List.cons_append, List.nil_append]
      rw [chunksFrom_lead (by omega) hlead,
        chunksFrom_within (by simp; omega) (by simp; omega), hbits]
      simp only [show v / 64 * 64 + (b1.toNat - 128) = v by omega, hof]
    · split
      · have h0 := byte (v / 4096 % 16 + 224) (by omega)
        have h1 := byte (v / 64 % 64 + 128) (by omega)
        have h2 := byte (v % 64 + 128) (by omega)
        generalize UInt8.ofNat (v / 4096 % 16 + 224) = b0 at *
        generalize UInt8.ofNat (v / 64 % 64 + 128) = b1 at *
        generalize UInt8.ofNat (v % 64 + 128) = b2 at *
        obtain ⟨low, high, hlead, hlow, hhigh⟩ : ∃ low high, second? b0 = some (low, high, 1) ∧
            low.toNat ≤ b1.toNat ∧ b1.toNat ≤ high.toNat := by
          rw [second?_eq, if_neg (by omega)]
          split
          · exact ⟨_, _, rfl, by simp; omega, by simp; omega⟩
          · split
            · exact ⟨_, _, rfl, by simp; omega, by simp; omega⟩
            · rw [if_pos (by omega)]
              exact ⟨_, _, rfl, by simp; omega, by simp; omega⟩
        have hbits : leadBits b0 = v / 4096 := by
          rw [leadBits_eq, if_neg (by omega), if_pos (by omega)]
          omega
        simp only [List.cons_append, List.nil_append]
        rw [chunksFrom_lead (by omega) hlead, chunksFrom_within hlow hhigh, hbits]
        dsimp only
        rw [chunksFrom_within (by simp; omega) (by simp; omega)]
        simp only [show (v / 4096 * 64 + (b1.toNat - 128)) * 64 + (b2.toNat - 128) = v by omega,
          hof]
      · have h0 := byte (v / 262144 % 8 + 240) (by omega)
        have h1 := byte (v / 4096 % 64 + 128) (by omega)
        have h2 := byte (v / 64 % 64 + 128) (by omega)
        have h3 := byte (v % 64 + 128) (by omega)
        generalize UInt8.ofNat (v / 262144 % 8 + 240) = b0 at *
        generalize UInt8.ofNat (v / 4096 % 64 + 128) = b1 at *
        generalize UInt8.ofNat (v / 64 % 64 + 128) = b2 at *
        generalize UInt8.ofNat (v % 64 + 128) = b3 at *
        obtain ⟨low, high, hlead, hlow, hhigh⟩ : ∃ low high, second? b0 = some (low, high, 2) ∧
            low.toNat ≤ b1.toNat ∧ b1.toNat ≤ high.toNat := by
          rw [second?_eq, if_neg (by omega), if_neg (by omega), if_neg (by omega),
            if_neg (by omega)]
          split
          · exact ⟨_, _, rfl, by simp; omega, by simp; omega⟩
          · split
            · exact ⟨_, _, rfl, by simp; omega, by simp; omega⟩
            · rw [if_pos (by omega)]
              exact ⟨_, _, rfl, by simp; omega, by simp; omega⟩
        have hbits : leadBits b0 = v / 262144 := by
          rw [leadBits_eq, if_neg (by omega), if_neg (by omega)]
          omega
        simp only [List.cons_append, List.nil_append]
        rw [chunksFrom_lead (by omega) hlead, chunksFrom_within hlow hhigh, hbits]
        dsimp only
        rw [chunksFrom_within (by simp; omega) (by simp; omega)]
        dsimp only
        rw [chunksFrom_within (by simp; omega) (by simp; omega)]
        simp only [show ((v / 262144 * 64 + (b1.toNat - 128)) * 64 + (b2.toNat - 128)) * 64 +
          (b3.toNat - 128) = v by omega, hof]

theorem chunks_encode (s : String) : chunks (encode s) = s.toList.map Chunk.char := by
  unfold chunks encode
  induction s.toList with
  | nil => rfl
  | cons c cs ih => simp only [List.flatMap_cons, chunksFrom_encodeChar, ih, List.map_cons]

/-- The bytes of a text are read as the text. -/
theorem decode?_encode (s : String) : decode? (encode s) = some s.toList := by
  rw [decode?, chunks_encode]
  induction s.toList with
  | nil => rfl
  | cons c cs ih => simp_all

/-- What has been read of a character whose lead byte is followed by further ones. -/
inductive Opened : Bytes → Nat → UInt8 → UInt8 → Nat → Prop
  | lead {b low high : UInt8} {more : Nat} (h : second? b = some (low, high, more)) :
      Opened [b] (leadBits b) low high more
  | next {taken : Bytes} {value more : Nat} {low high b : UInt8}
      (before : Opened taken value low high (more + 1)) (hlow : low ≤ b) (hhigh : b ≤ high) :
      Opened (b :: taken) (value * 64 + (b.toNat - 0x80)) 0x80 0xBF more

/-- The bytes that are not yet part of a chunk. -/
def State.pending : State → Bytes
  | ready => []
  | within taken _ _ _ _ => taken.reverse

def State.Sound : State → Prop
  | ready => True
  | within taken value low high more => Opened taken value low high more

/-- What a lead byte allows to follow, in numbers. -/
theorem second?_cases {b low high : UInt8} {more : Nat} (h : second? b = some (low, high, more)) :
    (0xC2 ≤ b.toNat ∧ b.toNat ≤ 0xDF ∧ low.toNat = 0x80 ∧ high.toNat = 0xBF ∧ more = 0) ∨
    (0xE0 ≤ b.toNat ∧ b.toNat ≤ 0xEF ∧ 0x80 ≤ low.toNat ∧ high.toNat ≤ 0xBF ∧ more = 1 ∧
      (b.toNat = 0xE0 → 0xA0 ≤ low.toNat) ∧ (b.toNat = 0xED → high.toNat ≤ 0x9F)) ∨
    (0xF0 ≤ b.toNat ∧ b.toNat ≤ 0xF4 ∧ 0x80 ≤ low.toNat ∧ high.toNat ≤ 0xBF ∧ more = 2 ∧
      (b.toNat = 0xF0 → 0x90 ≤ low.toNat) ∧ (b.toNat = 0xF4 → high.toNat ≤ 0x8F)) := by
  rw [second?_eq] at h
  repeat' split at h
  all_goals first
    | (obtain ⟨rfl, rfl, rfl⟩ : _ = low ∧ _ = high ∧ _ = more := by simpa using h
       simp only [UInt8.reduceToNat, true_and, and_true]
       omega)
    | simp at h

/-- No character has more than four bytes. -/
theorem length_opened {taken : Bytes} {value more : Nat} {low high : UInt8}
    (h : Opened taken value low high more) : taken.length + more ≤ 3 := by
  induction h with
  | lead h =>
    have followed := second?_cases h
    simp only [List.length_singleton]
    omega
  | next _ _ _ ih =>
    simp only [List.length_cons]
    omega

theorem toNat_val_ofNat {v : Nat} (h : v < 0xD800 ∨ 0xDFFF < v ∧ v < 0x110000) :
    (Char.ofNat v).val.toNat = v := by
  have valid : v.isValidChar := h
  rw [Char.ofNat, dif_pos valid]
  rfl

theorem byte_eq {n : Nat} {b : UInt8} (h : n = b.toNat) : UInt8.ofNat n = b := by
  rw [h, UInt8.ofNat_toNat]

/-- A byte that starts a character of its own. -/
theorem encodeChar_single {b : UInt8} (h : b < 0x80) :
    String.utf8EncodeChar (Char.ofNat b.toNat) = [b] := by
  simp only [UInt8.lt_iff_toNat_lt, UInt8.reduceToNat] at h
  have value := toNat_val_ofNat (v := b.toNat) (by omega)
  unfold String.utf8EncodeChar
  rw [value, if_pos (by omega), UInt8.ofNat_toNat]

/-- The last byte of a character completes it. -/
theorem encodeChar_opened {taken : Bytes} {value : Nat} {low high b : UInt8}
    (h : Opened taken value low high 0) (hlow : low ≤ b) (hhigh : b ≤ high) :
    String.utf8EncodeChar (Char.ofNat (value * 64 + (b.toNat - 0x80))) =
      taken.reverse ++ [b] := by
  rw [UInt8.le_iff_toNat_le] at hlow hhigh
  cases h with
  | @lead b0 _ _ _ h =>
    have cases0 := second?_cases h
    have bits := leadBits_eq b0
    rw [if_pos (by omega)] at bits
    have val := toNat_val_ofNat (v := leadBits b0 * 64 + (b.toNat - 0x80)) (by omega)
    unfold String.utf8EncodeChar
    rw [val]
    dsimp only
    rw [if_neg (by omega), if_pos (by omega), byte_eq (b := b0) (by omega),
      byte_eq (b := b) (by omega)]
    rfl
  | @next taken value _ low' high' b1 before hlow' hhigh' =>
    rw [UInt8.le_iff_toNat_le] at hlow' hhigh'
    simp only [UInt8.reduceToNat] at hlow hhigh
    cases before with
    | @lead b0 _ _ _ h =>
      have cases0 := second?_cases h
      have bits := leadBits_eq b0
      rw [if_neg (by omega), if_pos (by omega)] at bits
      have val := toNat_val_ofNat
        (v := (leadBits b0 * 64 + (b1.toNat - 0x80)) * 64 + (b.toNat - 0x80)) (by omega)
      unfold String.utf8EncodeChar
      rw [val]
      dsimp only
      rw [if_neg (by omega), if_neg (by omega), if_pos (by omega), byte_eq (b := b0) (by omega),
        byte_eq (b := b1) (by omega), byte_eq (b := b) (by omega)]
      rfl
    | @next taken value _ low'' high'' b2 before hlow'' hhigh'' =>
      rw [UInt8.le_iff_toNat_le] at hlow'' hhigh''
      simp only [UInt8.reduceToNat] at hlow' hhigh'
      cases before with
      | @lead b0 _ _ _ h =>
        have cases0 := second?_cases h
        have bits := leadBits_eq b0
        rw [if_neg (by omega), if_neg (by omega)] at bits
        have val := toNat_val_ofNat (v := ((leadBits b0 * 64 + (b2.toNat - 0x80)) * 64 +
          (b1.toNat - 0x80)) * 64 + (b.toNat - 0x80)) (by omega)
        unfold String.utf8EncodeChar
        rw [val]
        dsimp only
        rw [if_neg (by omega), if_neg (by omega), if_neg (by omega),
          byte_eq (b := b0) (by omega), byte_eq (b := b2) (by omega), byte_eq (b := b1) (by omega),
          byte_eq (b := b) (by omega)]
        rfl
      | next before =>
        have few := length_opened before
        cases before <;> simp at few

/-- Nothing is lost when a byte starts a character. -/
theorem bytes_start (b : UInt8) : (start b).2.Sound ∧
    (start b).1.toList.flatMap Chunk.bytes ++ (start b).2.pending = [b] := by
  unfold start
  split
  · rename_i single
    exact ⟨trivial, by simp [Chunk.bytes, State.pending, encodeChar_single single]⟩
  · split
    · rename_i h
      exact ⟨.lead h, rfl⟩
    · exact ⟨trivial, rfl⟩

/-- The chunks are made of all the bytes. -/
theorem bytes_chunksFrom {state : State} (sound : state.Sound) (bytes : Bytes) :
    (chunksFrom state bytes).flatMap Chunk.bytes = state.pending ++ bytes := by
  induction bytes generalizing state with
  | nil => cases state <;> simp [chunksFrom, Chunk.bytes, State.pending]
  | cons b rest ih =>
    obtain ⟨soundNext, first⟩ := bytes_start b
    cases state with
    | ready =>
      rw [chunksFrom, List.flatMap_append, ih soundNext, ← List.append_assoc, first]
      rfl
    | within taken value low high more =>
      rw [chunksFrom]
      split
      · rename_i bounds
        cases more with
        | zero =>
          dsimp only
          rw [List.flatMap_cons, @ih .ready trivial, Chunk.bytes,
            encodeChar_opened sound bounds.1 bounds.2]
          simp [State.pending]
        | succ more =>
          dsimp only
          have opened : Opened (b :: taken) _ _ _ _ := .next sound bounds.1 bounds.2
          rw [@ih (.within _ _ _ _ _) opened]
          simp [State.pending]
      · have broken : Chunk.bytes (.broken taken.reverse) = taken.reverse := rfl
        rw [List.flatMap_cons, List.flatMap_append, ih soundNext, broken, State.pending,
          ← List.append_assoc _ _ rest, first]
        rfl

/-- Bytes that are read as a text are cut into its characters. -/
theorem chunks_of_decode? {bytes : Bytes} {text : List Char} (h : decode? bytes = some text) :
    chunks bytes = text.map Chunk.char := by
  unfold decode? at h
  generalize chunks bytes = cs at h ⊢
  induction cs generalizing text with
  | nil =>
    obtain rfl : [] = text := by simpa using h
    rfl
  | cons chunk cs ih =>
    rw [List.mapM_cons] at h
    cases chunk with
    | broken piece => simp at h
    | char c =>
      simp only [Option.bind_eq_bind, Option.bind_some, Option.pure_def, Option.bind_eq_some_iff,
        Option.some.injEq] at h
      obtain ⟨rest, hrest, rfl⟩ := h
      rw [List.map_cons, ih hrest]

/-- Bytes are read as a text exactly if they are the bytes of this text. -/
theorem decode?_eq_some_iff {bytes : Bytes} {text : List Char} :
    decode? bytes = some text ↔ bytes = encode (String.ofList text) := by
  constructor
  · intro h
    have whole := @bytes_chunksFrom .ready trivial bytes
    rw [← chunks, chunks_of_decode? h, List.flatMap_map] at whole
    rw [encode, String.toList_ofList]
    exact whole.symm
  · rintro rfl
    rw [decode?_encode, String.toList_ofList]

/-- The bytes of a lesser character are lesser, whatever follows. -/
theorem encodeChar_lt {c d : Char} (h : c < d) (rest more : Bytes) :
    String.utf8EncodeChar c ++ rest < String.utf8EncodeChar d ++ more := by
  have hd : d.val.toNat < 0xD800 ∨ 0xDFFF < d.val.toNat ∧ d.val.toNat < 0x110000 := d.valid
  have h : c.val.toNat < d.val.toNat := h
  unfold String.utf8EncodeChar
  generalize c.val.toNat = v at *
  generalize d.val.toNat = w at *
  -- the numbers are compared digit by digit
  have third : v / 64 < w / 64 ∨ v / 64 = w / 64 ∧ v % 64 < w % 64 := by omega
  have second (less : v / 64 < w / 64) :
      v / 4096 < w / 4096 ∨ v / 4096 = w / 4096 ∧ v / 64 % 64 < w / 64 % 64 := by omega
  have first (less : v / 4096 < w / 4096) :
      v / 262144 < w / 262144 ∨ v / 262144 = w / 262144 ∧ v / 4096 % 64 < w / 4096 % 64 := by omega
  dsimp only
  repeat' split
  all_goals
    simp only [List.cons_append, List.nil_append, List.cons_lt_cons_iff, UInt8.lt_iff_toNat_lt,
      ← UInt8.toNat_inj, UInt8.toNat_ofNat']
    simp (disch := omega) only [Nat.mod_eq_of_lt]
    omega

theorem encodeChar_ne_nil (c : Char) : String.utf8EncodeChar c ≠ [] := by
  unfold String.utf8EncodeChar
  dsimp only
  repeat' split
  all_goals exact List.cons_ne_nil _ _

theorem eq_nul_of_zero_mem {c : Char} (mem : 0 ∈ String.utf8EncodeChar c) : c = '\x00' := by
  have limit := UInt32.toNat_lt c.val
  have value : c.val.toNat = c.toNat := rfl
  have nul : '\x00'.toNat = 0 := rfl
  rw [← Char.toNat_inj, nul]
  unfold String.utf8EncodeChar at mem
  dsimp only at mem
  repeat' split at mem
  all_goals
    simp [← UInt8.toNat_inj] at mem
    omega

/-- A text without a null character has no null byte. -/
theorem zero_notMem_encode {s : String} (noNul : '\x00' ∉ s.toList) : 0 ∉ encode s := by
  intro mem
  obtain ⟨c, inText, mem⟩ := List.mem_flatMap.mp mem
  exact noNul (eq_nul_of_zero_mem mem ▸ inText)

theorem flatMap_encodeChar_lt {cs ds : List Char} (h : cs < ds) :
    cs.flatMap String.utf8EncodeChar < ds.flatMap String.utf8EncodeChar := by
  induction cs generalizing ds with
  | nil =>
    cases ds with
    | nil => exact absurd h (List.lt_irrefl _)
    | cons d ds =>
      obtain ⟨b, bytes, hb⟩ := List.exists_cons_of_ne_nil (encodeChar_ne_nil d)
      rw [List.flatMap_nil, List.flatMap_cons, hb]
      exact List.nil_lt_cons _ _
  | cons c cs ih =>
    cases ds with
    | nil => exact absurd h (List.not_lt_nil _)
    | cons d ds =>
      rw [List.flatMap_cons, List.flatMap_cons]
      rcases List.cons_lt_cons_iff.mp h with lesser | ⟨rfl, later⟩
      · exact encodeChar_lt lesser _ _
      · exact List.append_left_lt (ih later)

/-- The bytes of texts are in the order of the texts. -/
theorem encode_not_lt {a b : String} (h : ¬a.toList < b.toList) : ¬encode a < encode b := by
  intro lesser
  rcases List.le_iff_lt_or_eq.mp h with greater | same
  · exact List.lt_asymm (flatMap_encodeChar_lt greater) lesser
  · rw [encode, encode, same] at lesser
    exact List.lt_irrefl _ lesser

end Utf8

end Signpost.Text
