import Wiregen.Proofs.Codec.Concat
import Wiregen.Proofs.Wire.Loop

/-!
# The loops of codecs

A message, a packed block and a map entry are each read by a loop with a cursor. Each step of these
frames an item and takes it in, so that the loops come to an end whatever they are given
(`readRecord_endsWith`, `Value.readNext_endsWith`, `Entry.readRecord_endsWith`). A codec calls
others on blocks that are shorter than its own input (`Calls.length_lt`), and so the calls come to
an end too (`calls_wellFounded`).
-/

namespace Wiregen.Codec

open Wire (Advances Bytes EndsWith Payload Reader untilEnd wireBits)

variable {c : Catalog} (nested : Nested c)

/-! ## Packed blocks -/

section
variable (e : Element c.size)

/-- Each value of a packed block takes bytes of the block. -/
theorem Value.readNext_advances :
    Advances fun values : Values c e => (Value.read nested e).map values.push := by
  rw [Value.readNext_eq]
  exact Wire.advances (Payload.read_shortens e.wireType).into

/-- The loop that reads the values of a packed block comes to an end. -/
theorem Value.readNext_endsWith (values : Values c e) (block : Bytes) :
    EndsWith (fun values : Values c e => (Value.read nested e).map values.push) block values
      (untilEnd .bufferOverflow (fun values => (Value.read nested e).map values.push) values
        block) := by
  rw [Value.readNext_eq]
  exact Wire.endsWith (Payload.read_shortens e.wireType).into
    (Payload.read_looksAtFront e.wireType).into _ block values

end

/-! ## Map entries -/

section
variable (k v : Element c.size)

/-- Each record of an entry takes bytes of the entry. -/
theorem Entry.readRecord_advances : Advances (Entry.readRecord (k := k) (v := v) nested) := by
  rw [Entry.readRecord_eq]
  exact Wire.advances (Entry.recordReader_shortens k v).into

/-- The loop that reads the records of an entry comes to an end. -/
theorem Entry.readRecord_endsWith (entry : Entry c k v) (block : Bytes) :
    EndsWith (Entry.readRecord nested) block entry
      (untilEnd .bufferOverflow (Entry.readRecord nested) entry block) := by
  rw [Entry.readRecord_eq]
  exact Wire.endsWith (Entry.recordReader_shortens k v).into
    (Entry.recordReader_looksAtFront k v).into _ block entry

end

/-! ## Messages -/

section
variable {i : Fin c.size} (distinct : KeysDistinct (c.fields i))
include distinct

/-- Each record of a message takes bytes of the input. -/
theorem readRecord_advances : Advances (readRecord (i := i) nested) := by
  rw [readRecord_eq nested distinct]
  exact Wire.advances Record.read_shortens.into

/-- The loop that reads the records of a message comes to an end. -/
theorem readRecord_endsWith (m : Message c i) (input : Bytes) :
    EndsWith (readRecord nested) input m
      (untilEnd .bufferOverflow (readRecord nested) m input) := by
  rw [readRecord_eq nested distinct]
  exact Wire.endsWith Record.read_shortens.into Record.read_looksAtFront.into _ input m

end

/-! ## Calls -/

/-- While it reads an input, the codec of a message calls that of another message on a block: what
it reads depends on what that codec answers for this block. (An answer cannot go unnoticed, since
where the codec that is called fails, the one that calls it fails for the same reason.) -/
def Calls (i : Fin c.size) (input : Bytes) (j : Fin c.size) (block : Bytes) : Prop :=
  ∃ (nested nested' : Nested c) (m : Message c i),
    (∀ j' block', ¬ (j' = j ∧ block' = block) → nested j' block' = nested' j' block') ∧
      untilEnd .bufferOverflow (readRecord nested) m input ≠
        untilEnd .bufferOverflow (readRecord nested') m input

section
variable (distinct : ∀ i, KeysDistinct (c.fields i))
include distinct

/-- A codec calls others on blocks shorter than the input it reads. -/
theorem Calls.length_lt {i j : Fin c.size} {input block : Bytes} (h : Calls i input j block) :
    block.length < input.length := by
  obtain ⟨nested, nested', m, hsame, hne⟩ := h
  refine Nat.lt_of_not_le fun hle => hne ?_
  -- The two answers differ for a block that is too long to be in a record of the input.
  have hbelow : Nested.AgreeBelow input.length nested nested' := fun j' block' hlt =>
    hsame j' block' fun heq => Nat.not_lt_of_le hle (heq.2 ▸ hlt)
  rw [untilEnd_readRecord nested (distinct i), untilEnd_readRecord nested' (distinct i),
    absorbAll_congr hbelow]

/-- Calls of codecs by codecs come to an end. -/
theorem calls_wellFounded :
    WellFounded fun callee caller : Fin c.size × Bytes =>
      Calls caller.1 caller.2 callee.1 callee.2 :=
  Subrelation.wf (fun h => h.length_lt distinct)
    (measure fun call : Fin c.size × Bytes => call.2.length).wf

/-- Reading a message is a loop that calls the codecs of messages in it for what their blocks are
read as. -/
theorem decode_endsWith (i : Fin c.size) (input : Bytes) :
    EndsWith (readRecord decode) input (Message.default i) (decode i input) := by
  have hdecode : decode i input =
      untilEnd .bufferOverflow (readRecord decode) (Message.default i) input := by
    rw [decode_eq_absorbAll distinct, untilEnd_readRecord decode (distinct i)]
  rw [hdecode]
  exact readRecord_endsWith decode (distinct i) (Message.default i) input

end

end Wiregen.Codec
