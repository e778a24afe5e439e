import Wiregen.Proofs.Codec.Absorb
import Wiregen.Proofs.Codec.Written

/-!
# What is written is read back

The records that a balanced message is written as are taken in one after the other. Each slot takes
in its own records and no others: a scalar or a message replaces the one before, and values of lists
and entries of maps are appended to those before (`Slot.followedBy`). So a message that is read
behind another follows it slot by slot (`decodeInto_written`), and the message that is read from the
default message on is the one that was written (`decode_written`).
-/

namespace Wiregen.Codec

open Schema (Shape)
open Wire (Bytes DecodeError Payload Reader Split mapKeyNumber mapValueNumber split tag)

variable {c : Catalog}

/-! ## Messages behind each other -/

/-- What a field holds once what it held is followed by something more: the later scalar, the later
message if there is one, and the values of both in lists and maps. -/
def Slot.followedBy : {shape : Shape (Element c.size)} → (first second : Slot c shape) →
    Slot c shape
  | _, _, .scalar v => .scalar v
  | _, first, .absent => first
  | _, _, .present m => .present m
  | _, .repeated vs, .repeated ws => .repeated (.ofList (vs.toList ++ ws.toList))
  | _, .map ks vs, .map ls ws =>
    .map (.ofList (ks.toList ++ ls.toList)) (.ofList (vs.toList ++ ws.toList))

/-- What the fields of a message hold once what they held is followed by something more. -/
def Slots.followedBy : {fields : List (Field c.size)} → (first second : Slots c fields) →
    Slots c fields
  | _, .nil, .nil => .nil
  | _, .cons slot slots, .cons slot' slots' =>
    .cons (slot.followedBy slot') (slots.followedBy slots')

/-- Nothing is left of a default behind which something more is read. -/
theorem Slot.default_followedBy {shape : Shape (Element c.size)} (slot : Slot c shape) :
    (Slot.default shape).followedBy slot = slot := by
  cases slot with
  | scalar v | absent | present m => rfl
  | repeated vs =>
    rw [default, followedBy, Values.toList, List.nil_append, Values.ofList_toList]
  | map ks vs =>
    simp only [default, followedBy, Values.toList, List.nil_append, Values.ofList_toList]

/-- A message behind a default one is that message. -/
theorem Slots.default_followedBy {fields : List (Field c.size)} (slots : Slots c fields) :
    (Slots.default fields).followedBy slots = slots := by
  induction fields with
  | nil => cases slots; rfl
  | cons f fields ih =>
    cases slots with
    | cons slot slots => rw [default, followedBy, Slot.default_followedBy, ih]

/-- A reading of nested messages that gives back all that are written with less than `n` bytes. -/
def Nested.RestoresBelow (n : Nat) (nested : Nested c) : Prop :=
  ∀ i (m : Message c i), m.Balanced → m.written.bytes.length < n →
    nested i m.written.bytes = .ok m

section
variable {nested : Nested c} {n : Nat} {number : UInt32}

/-! ## Values and entries -/

/-- The payload of a value stands for it. -/
theorem Value.ofPayload_payload (h : nested.RestoresBelow n) {e : Element c.size} {v : Value c e}
    (balanced : v.Balanced) (hlen : (v.record number).bytes.length ≤ n) :
    Value.ofPayload nested e v.payload = .ok v := by
  have hcontent := Nat.lt_of_lt_of_le (v.length_content_lt number) hlen
  cases v with
  | scalar v => rw [ofPayload, payload, Wire.Scalar.ofPayload_toPayload]; rfl
  | message m => rw [ofPayload, payload, Payload.content_block, h _ m balanced hcontent]; rfl

/-- A key and a value that are written as an entry are read back from its block. -/
theorem Entry.ofBlock_records (h : nested.RestoresBelow n) (hn : n ≤ UInt64.size)
    {k v : Element c.size} {key : Value c k} {value : Value c v} (hkey : key.Balanced)
    (hvalue : value.Balanced)
    (hlen : (key.record mapKeyNumber).bytes.length + (value.record mapValueNumber).bytes.length
      ≤ n) :
    Entry.ofBlock nested k v
        ((key.record mapKeyNumber).bytes ++ (value.record mapValueNumber).bytes) =
      .ok ⟨key, value⟩ := by
  have hkeyLen : (key.record mapKeyNumber).bytes.length ≤ n := by omega
  have hvalueLen : (value.record mapValueNumber).bytes.length ≤ n := by omega
  have hread : ∀ r ∈ [key.record mapKeyNumber, value.record mapValueNumber], ∀ rest,
      Entry.recordReader k v (r.bytes ++ rest) = .ok (r, rest) := by
    intro r hr rest
    rcases List.mem_cons.mp hr with rfl | hr
    · exact recordReader_bytes (Value.fits_record (Nat.le_trans hkeyLen hn)) (.inl rfl) rest
    · obtain rfl := List.mem_singleton.mp hr
      exact recordReader_bytes (Value.fits_record (Nat.le_trans hvalueLen hn)) (.inr rfl) rest
  have hsplit : split (Entry.recordReader k v) (Entry.recordReader_shortens k v)
      ((key.record mapKeyNumber).bytes ++ (value.record mapValueNumber).bytes) =
        ⟨[key.record mapKeyNumber, value.record mapValueNumber], none⟩ := by
    have := Wire.split_flatMap (Entry.recordReader_shortens k v) hread
    simpa only [List.flatMap_cons, List.flatMap_nil, List.append_nil] using this
  have hfirst : Entry.absorb nested ⟨.default k, .default v⟩ (key.record mapKeyNumber) =
      .ok ⟨key, .default v⟩ := by
    rw [absorb, Value.record, if_pos rfl, Value.ofPayload_payload h hkey hkeyLen]
    rfl
  have hsecond : Entry.absorb nested ⟨key, .default v⟩ (value.record mapValueNumber) =
      .ok ⟨key, value⟩ := by
    rw [absorb, Value.record, if_neg (mapValue_key_ne k v),
      Value.ofPayload_payload h hvalue hvalueLen]
    rfl
  rw [ofBlock, hsplit, Split.fold_whole]
  simp only [List.foldlM_cons, List.foldlM_nil, hfirst, hsecond, bind, Except.bind]
  rfl

/-! ## Slots -/

/-- A list takes in the records of values by appending these, if each payload stands for its
value. -/
theorem Slot.absorb_values {e : Element c.size} (ws : List (Value c e))
    (h : ∀ w ∈ ws, Value.ofPayload nested e w.payload = .ok w) (vs : Values c e) :
    (Slot.repeated vs).absorbEach nested number (ws.map (Value.record number)) =
      .ok (.repeated (.ofList (vs.toList ++ ws))) := by
  induction ws generalizing vs with
  | nil => rw [List.append_nil, Values.ofList_toList]; rfl
  | cons w ws ih =>
    have hw := h w List.mem_cons_self
    have hws := ih (fun v hv => h v (List.mem_cons_of_mem w hv)) (vs.push w)
    have hfirst : (Slot.repeated vs).absorb nested number (w.record number) =
        .ok (.repeated (vs.push w)) := by
      rw [absorb, Value.record, if_pos rfl, hw]
      rfl
    rw [List.map_cons, absorbEach_cons hfirst, hws, Values.toList_push, List.append_assoc,
      List.singleton_append]

/-- A map takes in the records of entries by appending a key and a value each. -/
theorem Slot.absorb_entries (h : nested.RestoresBelow n) (hn : n ≤ UInt64.size)
    {k v : Element c.size} (entries : List (Value c k × Value c v))
    (balanced : ∀ p ∈ entries, p.1.Balanced ∧ p.2.Balanced)
    (hlen : ∀ p ∈ entries, (entryRecord number p.1 p.2).bytes.length ≤ n)
    (keys : Values c k) (values : Values c v) :
    (Slot.map keys values).absorbEach nested number
        (entries.map fun p => entryRecord number p.1 p.2) =
      .ok (.map (.ofList (keys.toList ++ entries.map Prod.fst))
        (.ofList (values.toList ++ entries.map Prod.snd))) := by
  induction entries generalizing keys values with
  | nil =>
    simp only [List.map_nil, List.append_nil, Values.ofList_toList]
    rfl
  | cons p entries ih =>
    obtain ⟨hkey, hvalue⟩ := balanced p List.mem_cons_self
    have hp := Nat.lt_of_lt_of_le (length_entry_lt number p.1 p.2) (hlen p List.mem_cons_self)
    have hentries := ih (fun q hq => balanced q (List.mem_cons_of_mem p hq))
      (fun q hq => hlen q (List.mem_cons_of_mem p hq)) (keys.push p.1) (values.push p.2)
    have hfirst : (Slot.map keys values).absorb nested number (entryRecord number p.1 p.2) =
        .ok (.map (keys.push p.1) (values.push p.2)) := by
      rw [absorb, entryRecord, if_pos rfl, Payload.content_block,
        Entry.ofBlock_records h hn hkey hvalue (Nat.le_of_lt hp)]
      rfl
    rw [List.map_cons, absorbEach_cons hfirst, hentries]
    simp only [Values.toList_push, List.append_assoc, List.singleton_append, List.map_cons]

/-- The records of a slot make what is held before be followed by what the slot holds. -/
theorem Slot.absorb_records (h : nested.RestoresBelow n) (hn : n ≤ UInt64.size) (number : UInt32)
    {shape : Shape (Element c.size)} (before slot : Slot c shape) (balanced : slot.Balanced)
    (hlen : ∀ r ∈ slot.records number, r.bytes.length ≤ n) :
    before.absorbEach nested number (slot.records number) = .ok (before.followedBy slot) := by
  cases slot with
  | absent => cases before <;> rfl
  | scalar v =>
    refine absorbEach_cons ?_ []
    refine (if_pos rfl).trans ?_
    rw [Value.record, Value.payload, Wire.Scalar.ofPayload_toPayload]
    cases before
    rfl
  | present m =>
    have hlt := Nat.lt_of_lt_of_le (Value.length_content_lt number (.message m))
      (hlen _ List.mem_cons_self)
    refine absorbEach_cons ?_ []
    refine (if_pos rfl).trans ?_
    rw [Value.record, Value.payload, Payload.content_block, h _ m balanced hlt]
    cases before <;> rfl
  | repeated vs =>
    cases before with
    | repeated us =>
      refine absorb_values vs.toList (fun v hv => ?_) us
      exact Value.ofPayload_payload h (balanced.of_mem hv) (hlen _ (List.mem_map_of_mem hv))
  | map keys values =>
    cases before with
    | map keys' values' =>
      obtain ⟨hlength, hkeys, hvalues⟩ := balanced
      have hlists : keys.toList.length = values.toList.length := by simpa using hlength
      have hentries := absorb_entries h hn (keys.toList.zip values.toList)
        (fun p hp => ⟨hkeys.of_mem (List.of_mem_zip hp).1, hvalues.of_mem (List.of_mem_zip hp).2⟩)
        (fun p hp => hlen _ (List.mem_map_of_mem hp)) keys' values'
      refine hentries.trans ?_
      rw [List.map_fst_zip (Nat.le_of_eq hlists), List.map_snd_zip (Nat.le_of_eq hlists.symm)]
      rfl

/-! ## Messages -/

/-- The records of slots make what is held before be followed by what the slots hold. -/
theorem Slots.absorb_records (h : nested.RestoresBelow n) (hn : n ≤ UInt64.size)
    {fields : List (Field c.size)} (distinct : KeysDistinct fields) (before slots : Slots c fields)
    (balanced : slots.Balanced) (hlen : ∀ r ∈ slots.records, r.bytes.length ≤ n) :
    before.absorbEach nested slots.records = .ok (before.followedBy slots) := by
  induction fields with
  | nil =>
    cases before
    cases slots
    rfl
  | cons f fields ih =>
    cases before with
    | cons first others =>
      cases slots with
      | cons slot slots =>
        obtain ⟨hfields, hapart⟩ := distinct.cons
        obtain ⟨hslotBalanced, hslotsBalanced⟩ := balanced
        have hfirst := first.absorb_records h hn f.number slot hslotBalanced
          fun r hr => hlen r (List.mem_append_left _ hr)
        have hothers := ih hfields others slots hslotsBalanced
          fun r hr => hlen r (List.mem_append_right _ hr)
        -- Records of the first field are none of the others', nor the other way about.
        have hleft : ∀ r ∈ slot.records f.number, ∀ g ∈ fields, r.key ∉ g.keys :=
          fun r hr => hapart r.key (slot.key_mem_of_mem_records hr)
        have hright : ∀ r ∈ slots.records, r.key ∉ f.keys := by
          intro r hr hkey
          obtain ⟨g, hg, hmem⟩ := slots.exists_key_mem hr
          exact hapart r.key hkey g hg hmem
        refine absorbEach_cons_iff.mpr ⟨?_, ?_⟩
        · rw [records, Slot.absorbEach_append, hfirst]
          exact Slot.absorbEach_of_not_mem _ hright
        · rw [records, absorbEach_append, others.absorbEach_of_not_mem hleft]
          exact hothers

/-- A balanced message that is read behind another one follows it, where keys tell the fields of
each message apart and the bytes are no more than a length can say. -/
theorem decodeInto_written (distinct : ∀ j, KeysDistinct (c.fields j)) {i : Fin c.size}
    (before : Message c i) {m : Message c i} (balanced : m.Balanced)
    (hlen : m.written.bytes.length < UInt64.size) :
    decodeInto i before m.written.bytes = .ok (before.followedBy m) := by
  induction hn : m.written.bytes.length using Nat.strongRecOn generalizing i before m with
  | ind n ih =>
    subst hn
    have hrestores : Nested.RestoresBelow m.written.bytes.length (decode (c := c)) := by
      intro j m' hbalanced hlt
      have hm' := ih _ hlt (Message.default j) hbalanced (Nat.lt_trans hlt hlen) rfl
      rw [Message.default, Slots.default_followedBy] at hm'
      exact hm'
    have hbytes : m.written.bytes = m.records.flatMap Record.bytes := by
      rw [Slots.written_eq m balanced]
      rfl
    have hle : ∀ r ∈ m.records, r.bytes.length ≤ m.written.bytes.length := by
      intro r hr
      rw [hbytes]
      exact length_bytes_le_of_mem hr
    have hfits : ∀ r ∈ m.records, r.Fits := fun r hr =>
      m.fits_of_mem_records hr (Nat.le_trans (hle r hr) (Nat.le_of_lt hlen))
    have hsplit : records m.written.bytes = ⟨m.records, none⟩ := by
      rw [hbytes]
      exact records_flatMap_bytes hfits
    rw [decodeInto_of_records distinct hsplit]
    exact before.absorb_records hrestores (Nat.le_of_lt hlen) (distinct i) m balanced hle

/-- Reading gives back every balanced message that was written, where keys tell the fields of each
message apart and the bytes are no more than a length can say. -/
theorem decode_written (distinct : ∀ j, KeysDistinct (c.fields j)) {i : Fin c.size}
    {m : Message c i} (balanced : m.Balanced) (hlen : m.written.bytes.length < UInt64.size) :
    decode i m.written.bytes = .ok m := by
  have hm := decodeInto_written distinct (Message.default i) balanced hlen
  rwa [Message.default, Slots.default_followedBy] at hm

end

end Wiregen.Codec
