import Wiregen.Proofs.Codec.Balanced
import Wiregen.Proofs.Codec.Refusal
import Wiregen.Proofs.Codec.RoundTrip
import Wiregen.Sample.Catalog

/-!
# The codecs of the sample

The messages of the sample have fields of every scalar type and of every shape, hold each other and
their own kind. Their fields have keys of their own, and so what is known of messages in general
holds of them: every message is read back from what is written, what is read of any bytes is their
meaning, record by record, and what is read can be written again.
-/

namespace Wiregen.Sample

open Codec (Element KeysDistinct Message Record Slot Slots absorbAll decode encode meaning records
  refusal?)
open Wire (Bytes failure?)

/-- No two fields of a message of the sample take in records with the same key. -/
theorem keysDistinct_catalog : ∀ i, KeysDistinct (catalog.fields i) := by
  decide

/-- Every message of the sample is written, unless the lists of a map in it differ in length, and is
read back as it was: every scalar bit by bit, lists and map entries in their order, keys that occur
twice as often as they do, and a default message as one that is there. (A length takes 64 bits on
the wire; no buffer is longer than that.) -/
theorem decode_encode (i : Fin catalog.size) (m : Message catalog i) (balanced : m.Balanced) :
    ∃ bytes, encode m = some bytes ∧ (bytes.length < UInt64.size → decode i bytes = .ok m) := by
  have hwritten := Slots.written_eq m balanced
  have hhalted : m.written.halted = false := by rw [hwritten]; rfl
  refine ⟨m.written.bytes, ?_, fun hlen => Codec.decode_written keysDistinct_catalog balanced hlen⟩
  rw [encode, hhalted]
  rfl

/-- The index of inner messages in the catalog. -/
def innerIndex : Fin catalog.size := ⟨1, by decide⟩

/-- An inner message of the sample. -/
def innerMessage (x : Int32) (label : String) : Message catalog (1 : Fin 11) :=
  .cons (.scalar x) (.cons (.scalar label) .nil)

/-- A message with a default message in it, lists, and maps in which keys occur twice. -/
def outerMessage : Message catalog (2 : Fin 11) :=
  .cons (.present (innerMessage 0 ""))
    (.cons (.repeated (.ofList [.message (innerMessage (-1) "a"), .message (innerMessage 5 "")]))
      (.cons (.repeated (.ofList [.scalar Int64.minValue, .scalar Int64.maxValue, .scalar (-1)]))
        (.cons (.repeated (.ofList [.scalar "", .scalar "é"]))
          (.cons (.map (.ofList [.scalar 7, .scalar (-7), .scalar 7])
              (.ofList [.scalar "x", .scalar "", .scalar "y"]))
            (.cons (.map (.ofList [.scalar "k", .scalar "k"])
                (.ofList [.message (innerMessage 1 "p"), .message (innerMessage 2 "q")]))
              (.cons (.present (.cons .absent .nil)) (.cons (.scalar "name") .nil)))))))

/-- An outer message is written and read back. -/
theorem decode_encode_outerMessage :
    outerMessage.Balanced ∧ ∃ bytes, encode outerMessage = some bytes ∧
      bytes.length < UInt64.size ∧ decode (c := catalog) (2 : Fin 11) bytes = .ok outerMessage := by
  have hbalanced : outerMessage.Balanced := by
    repeat' constructor
  obtain ⟨bytes, hbytes, hdecode⟩ := decode_encode (2 : Fin 11) outerMessage hbalanced
  have hlen : bytes.length < UInt64.size := by
    have hshort : ((encode outerMessage).all fun bytes => bytes.length < UInt64.size) = true := by
      decide +kernel
    rw [hbytes] at hshort
    exact of_decide_eq_true hshort
  exact ⟨hbalanced, bytes, hbytes, hlen, hdecode hlen⟩

/-- What is read of any bytes is their meaning: the bytes are split into records by framing alone,
and the records are taken in one after the other from the default message on, by the field that has
their key or by none, where the block of a nested message stands for its own meaning. Nothing is
read exactly if a record is refused, for a reason that does not depend on those before it, or if one
is broken; the first to be either says why. To a list a record appends the value that it says, or
those of its packed block, and to a map the key and the value of its entry. -/
theorem decode_record_by_record (i : Fin catalog.size) (input : Bytes) :
    decode i input = meaning i input ∧
      meaning i input = absorbAll meaning (Message.default i) input ∧
      failure? (decode i input) =
        ((records input).items.findSome? (refusal? meaning (catalog.fields i))).or
          (records input).broken ∧
      (∀ (m : Message catalog i) (r : Record),
        failure? (m.absorb meaning r) = refusal? meaning (catalog.fields i) r) ∧
      (∀ {e : Element catalog.size} (number : UInt32) (slot : Slot catalog (.repeated e))
          (r : Record),
        (slot.absorb meaning number r).map Slot.elements =
          (r.elements meaning number e).map (slot.elements ++ ·)) ∧
      ∀ {k v : Element catalog.size} (number : UInt32) (slot : Slot catalog (.map k v))
          (r : Record),
        (slot.absorb meaning number r).map (fun slot => (slot.keys, slot.values)) =
          (r.entries meaning number k v).map fun entries =>
            (slot.keys ++ entries.map (·.key), slot.values ++ entries.map (·.value)) := by
  have hdecode := Codec.decode_eq keysDistinct_catalog i input
  have hmeaning := Codec.meaning_eq i input
  refine ⟨hdecode, hmeaning, ?_, fun m r => m.failure?_absorb meaning r,
    fun number slot r => slot.elements_absorb meaning number r,
    fun number slot r => slot.entries_absorb meaning number r⟩
  rw [hdecode, hmeaning]
  exact Codec.failure?_absorbAll meaning _ input

/-- Every message of the sample that is read, from whatever bytes, has maps whose lists are of the
same length. So it is written to its end, and what is written is read as the same message again,
however else the bytes said it. -/
theorem reencode_of_decode (i : Fin catalog.size) (input : Bytes) (m : Message catalog i)
    (h : decode i input = .ok m) :
    m.Balanced ∧ ∃ bytes, encode m = some bytes ∧
      (bytes.length < UInt64.size → decode i bytes = .ok m) := by
  have hbalanced := Codec.decode_balanced keysDistinct_catalog h
  exact ⟨hbalanced, m.written.bytes, Codec.encode_of_balanced hbalanced,
    fun hlen => Codec.decode_written keysDistinct_catalog hbalanced hlen⟩

/-- Bytes of an outer message that no writer writes: its child twice, entries without a key and with
two, a packed block beside a single value, numbers in more bytes than they need, and a field that is
not known. -/
def looseBytes : Bytes :=
  [0x0A, 0x02, 0x08, 0x07, 0x2A, 0x03, 0x12, 0x01, 0x7A, 0x1A, 0x02, 0x01, 0x02, 0x78, 0x81, 0x00,
    0x0A, 0x00, 0x18, 0x83, 0x80, 0x00, 0x2A, 0x04, 0x08, 0x01, 0x08, 0x09]

/-- Loose bytes are read, and what they are read as is written and read back. -/
theorem reencode_looseBytes :
    ∃ m, decode (c := catalog) (2 : Fin 11) looseBytes = .ok m ∧ m.Balanced ∧
      ∃ bytes, encode m = some bytes ∧ bytes.length < UInt64.size ∧
        decode (c := catalog) (2 : Fin 11) bytes = .ok m := by
  have hshort : (((decode (c := catalog) (2 : Fin 11) looseBytes).toOption.bind encode).any
      fun bytes => bytes.length < UInt64.size) = true := by
    with_unfolding_all decide
  obtain ⟨bytes, hbytes, hlen⟩ := (Option.any_eq_true _ _).mp hshort
  obtain ⟨m, hm, hencode⟩ := Option.bind_eq_some_iff.mp hbytes
  have hdecode := toOption_eq_some.mp hm
  obtain ⟨hbalanced, bytes', hbytes', hagain⟩ :=
    reencode_of_decode (2 : Fin 11) looseBytes m hdecode
  obtain rfl := Option.some.inj (hencode.symm.trans hbytes')
  exact ⟨m, hdecode, hbalanced, bytes, hencode, of_decide_eq_true hlen,
    hagain (of_decide_eq_true hlen)⟩

end Wiregen.Sample
