import Wiregen.Proofs.Codec.Loops
import Wiregen.Proofs.Sample.Codecs

/-!
# The loops of the sample's codecs

The codecs of the sample call each other, some of them on blocks of their own kind, and all loop
over bytes that anyone may have sent. They come to an end on whatever they are given (`loops_end`).
-/

namespace Wiregen.Sample

open Codec (Calls Element Entry Message Nested Value Values decode readRecord)
open Wire (Advances Bytes EndsWith Loop failure? untilEnd)

/-- Reading comes to an end, whatever the input is. Each step of the loop over the records of a
message, of the loop over the values of a packed block and of the loop over the records of an entry
fails or moves the cursor on, not past the end of what it reads, whatever nested messages are read
as. A codec calls others on blocks shorter than its own input, so that there is no endless chain of
calls. And so each loop takes no more steps than it has bytes, and if none fails it stops with the
cursor at the very end: in the codec of a message, with the message that is read. -/
theorem loops_end :
    (∀ nested : Nested catalog,
      (∀ i : Fin catalog.size, Advances (readRecord (i := i) nested)) ∧
      (∀ e : Element catalog.size,
        Advances fun values : Values catalog e => (Value.read nested e).map values.push) ∧
      ∀ k v : Element catalog.size, Advances (Entry.readRecord (k := k) (v := v) nested)) ∧
    (∀ (i j : Fin catalog.size) (input block : Bytes), Calls i input j block →
      block.length < input.length) ∧
    (WellFounded fun callee caller : Fin catalog.size × Bytes =>
      Calls caller.1 caller.2 callee.1 callee.2) ∧
    (∀ (nested : Nested catalog) (block : Bytes),
      (∀ (e : Element catalog.size) (values : Values catalog e),
        EndsWith (fun values : Values catalog e => (Value.read nested e).map values.push) block
          values (untilEnd .bufferOverflow
            (fun values => (Value.read nested e).map values.push) values block)) ∧
      ∀ (k v : Element catalog.size) (entry : Entry catalog k v),
        EndsWith (Entry.readRecord nested) block entry
          (untilEnd .bufferOverflow (Entry.readRecord nested) entry block)) ∧
    ∀ (i : Fin catalog.size) (input : Bytes),
      EndsWith (readRecord decode) input (Message.default i) (decode i input) := by
  refine ⟨fun nested => ⟨fun i => ?_, fun e => ?_, fun k v => ?_⟩, fun i j input block h => ?_, ?_,
    fun nested block => ⟨fun e values => ?_, fun k v entry => ?_⟩, fun i input => ?_⟩
  · exact Codec.readRecord_advances nested (keysDistinct_catalog i)
  · exact Codec.Value.readNext_advances nested e
  · exact Entry.readRecord_advances nested k v
  · exact h.length_lt keysDistinct_catalog
  · exact Codec.calls_wellFounded keysDistinct_catalog
  · exact Value.readNext_endsWith nested e values block
  · exact Entry.readRecord_endsWith nested k v entry block
  · exact Codec.decode_endsWith keysDistinct_catalog i input

/-- The codec of nodes. -/
def nodeIndex : Fin catalog.size := ⟨8, by decide⟩

/-- A node with another behind it: the codec calls itself on the last two bytes. -/
theorem loops_end_node :
    let input : Bytes := [0x08, 0x05, 0x12, 0x02, 0x08, 0x01]
    Calls nodeIndex input nodeIndex [0x08, 0x01] ∧ ([0x08, 0x01] : Bytes).length < input.length ∧
      ∃ m, decode nodeIndex input = .ok m ∧
        ∃ n ≤ 6, Loop (readRecord decode) input (Message.default nodeIndex) 0 n (.ok (m, 6)) := by
  intro input
  obtain ⟨-, hshorter, -, -, hends⟩ := loops_end
  have hcalls : Calls nodeIndex input nodeIndex [0x08, 0x01] := by
    refine ⟨fun _ _ => .error .invalidUtf8,
      fun j block => .error (if j = nodeIndex ∧ block = [0x08, 0x01] then .bufferOverflow
        else .invalidUtf8), Message.default nodeIndex, fun j block hne => ?_, fun heq => ?_⟩
    · exact congrArg Except.error (if_neg hne).symm
    · have hfailure := congrArg failure? heq
      revert hfailure
      with_unfolding_all decide
  have hok : (decode nodeIndex input).toOption.isSome = true := by
    with_unfolding_all decide
  obtain ⟨m, hm⟩ := toOption_isSome.mp hok
  obtain ⟨n, hn, hloop⟩ := hends nodeIndex input
  refine ⟨hcalls, hshorter _ _ _ _ hcalls, m, hm, n, hn, (hloop n _).mpr ⟨rfl, ?_⟩⟩
  rw [hm]
  rfl

end Wiregen.Sample
