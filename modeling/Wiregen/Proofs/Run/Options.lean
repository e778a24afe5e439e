import Wiregen.Failure
import Wiregen.Proofs.Text.Blank
import Wiregen.Run.Options

/-!
# Parameters as lists of settings

A parameter is read piece by piece, and what it comes to can be said of its pieces alone, blank ones
and white space included. It is refused exactly if one of them is, and then for the first such
(`applyAll_eq_error`); otherwise each option is as the last piece that sets it says, or as it was
(`applyAll_eq_ok`). So the pieces of one parameter behind another override the options of the other
(`parse_overrides`), and options that have no comma and no white space at the ends of their texts
can be had from a parameter.
-/

namespace Wiregen.Options

/-! ## Pieces of a parameter -/

/-- The key that a piece sets: what stands before its first equals sign, without white space at the
ends. -/
def keyOf (piece : List Char) : String :=
  String.ofList (Text.trim (piece.takeWhile (· ≠ '=')))

/-- What a piece sets its key to: all that stands behind its first equals sign, without white space
at the ends. -/
def valueOf (piece : List Char) : String :=
  String.ofList (Text.trim ((piece.dropWhile (· ≠ '=')).drop 1))

/-- The keys of options. -/
def keys : List String := ["runtime_module", "runtime_file", "comments"]

/-- Pieces that are refused: those that are not blank and set nothing, or set an unknown key, or set
`comments` to what is no truth value. -/
def IsRefused (piece : List Char) : Prop :=
  ¬ piece.all Text.isBlank ∧
    ('=' ∉ piece ∨ keyOf piece ∉ keys ∨
      keyOf piece = "comments" ∧ valueOf piece ≠ "true" ∧ valueOf piece ≠ "false")

instance : DecidablePred IsRefused := fun _ => inferInstanceAs (Decidable (_ ∧ _))

/-- The piece is refused, and none before it is. -/
def FirstRefused (pieces : List (List Char)) (piece : List Char) : Prop :=
  ∃ before after, pieces = before ++ piece :: after ∧
    (∀ earlier ∈ before, ¬ IsRefused earlier) ∧ IsRefused piece

/-- Whether a piece sets the key. -/
def setsKey (key : String) (piece : List Char) : Bool := '=' ∈ piece ∧ keyOf piece = key

/-- What the last of the pieces that set the key sets it to. -/
def lastValue? (key : String) (pieces : List (List Char)) : Option String :=
  (pieces.filter (setsKey key)).getLast?.map valueOf

/-- The options as the last piece that sets each of them says, where one does. -/
def overriddenBy (options : Options) (pieces : List (List Char)) : Options where
  runtimeModule := (lastValue? "runtime_module" pieces).getD options.runtimeModule
  runtimeFile := (lastValue? "runtime_file" pieces).getD options.runtimeFile
  comments := ((lastValue? "comments" pieces).map (· == "true")).getD options.comments

/-! ## Keys and values -/

section
variable {key value : List Char}

/-- A setting is split at an equals sign that has none before it. -/
theorem splitSetting_append (h : '=' ∉ key) (value : List Char) :
    splitSetting (key ++ '=' :: value) = some (key, value) := by
  induction key with
  | nil => rfl
  | cons c key ih =>
    rw [List.mem_cons, not_or] at h
    rw [List.cons_append, splitSetting, ih h.2]
    · rfl
    · exact fun heq => h.1 heq.symm

/-- A setting without an equals sign is not split. -/
theorem splitSetting_of_notMem {setting : List Char} (h : '=' ∉ setting) :
    splitSetting setting = none := by
  induction setting with
  | nil => rfl
  | cons c setting ih =>
    rw [List.mem_cons, not_or] at h
    rw [splitSetting, ih h.2]
    · rfl
    · exact fun heq => h.1 heq.symm

/-- A key without an equals sign is passed over to its end. -/
theorem ne_of_notMem (h : '=' ∉ key) : ∀ c ∈ key, decide (c ≠ '=') = true := by
  intro c hc
  rw [decide_eq_true_eq]
  rintro rfl
  exact h hc

/-- The key of a piece is what stands before its first equals sign. -/
theorem keyOf_append (h : '=' ∉ key) (value : List Char) :
    keyOf (key ++ '=' :: value) = String.ofList (Text.trim key) := by
  rw [keyOf, List.takeWhile_append_of_pos (ne_of_notMem h)]
  simp

/-- The value of a piece is what stands behind its first equals sign. -/
theorem valueOf_append (h : '=' ∉ key) (value : List Char) :
    valueOf (key ++ '=' :: value) = String.ofList (Text.trim value) := by
  rw [valueOf, List.dropWhile_append_of_pos (ne_of_notMem h)]
  simp

end

/-- The equals sign is no white space. -/
theorem not_isBlank_equals : ¬ Text.isBlank '=' := by decide

/-- White space around a piece is no part of its key or its value. -/
theorem exists_trim_eq {piece : List Char} (h : '=' ∈ piece) :
    ∃ key value, Text.trim piece = key ++ '=' :: value ∧ '=' ∉ key ∧
      keyOf piece = String.ofList (Text.trim key) ∧
      valueOf piece = String.ofList (Text.trim value) := by
  have hmem : '=' ∈ Text.trim piece := Text.mem_trim h not_isBlank_equals
  obtain ⟨key, value, htrim, hkey⟩ := List.eq_append_cons_of_mem hmem
  obtain ⟨before, behind, hpiece, hbefore, hbehind⟩ := Text.exists_eq_trim piece
  have hfront : '=' ∉ before ++ key := by
    rw [List.mem_append, not_or]
    exact ⟨fun hequals => not_isBlank_equals (hbefore _ hequals), hkey⟩
  have hsplit : piece = (before ++ key) ++ '=' :: (value ++ behind) := by
    rw [hpiece, htrim]
    simp
  refine ⟨key, value, htrim, hkey, ?_, ?_⟩
  · rw [hsplit, keyOf_append hfront, Text.trim_blank_append hbefore]
  · rw [hsplit, valueOf_append hfront, Text.trim_append_blank hbehind]

/-- What a setting does is said by the key and the value of the piece that it is in. -/
theorem withSetting?_trim {piece : List Char} (h : '=' ∈ piece) (options : Options) :
    options.withSetting? (Text.trim piece) =
      if keyOf piece = "runtime_module" then
        some { options with runtimeModule := valueOf piece }
      else if keyOf piece = "runtime_file" then
        some { options with runtimeFile := valueOf piece }
      else if keyOf piece = "comments" then
        (readBool? (valueOf piece)).map fun comments => { options with comments }
      else none := by
  obtain ⟨key, value, htrim, hkey, hkeyOf, hvalueOf⟩ := exists_trim_eq h
  rw [withSetting?, htrim, splitSetting_append hkey]
  dsimp only
  rw [← hkeyOf, ← hvalueOf]
  split
  next hmodule => rw [if_pos hmodule]
  next hfile => simp [hfile]
  next hcomments => simp [hcomments]
  next hmodule hfile hcomments => rw [if_neg hmodule, if_neg hfile, if_neg hcomments]

/-! ## Overriding -/

/-- The last value of a key is that in the later pieces, or else that in the earlier ones. -/
theorem lastValue?_append (key : String) (pieces others : List (List Char)) :
    lastValue? key (pieces ++ others) = (lastValue? key others).or (lastValue? key pieces) := by
  rw [lastValue?, List.filter_append, List.getLast?_append, Option.map_or]
  rfl

/-- One piece sets a key to its value or does not set it. -/
theorem lastValue?_singleton (key : String) (piece : List Char) :
    lastValue? key [piece] = if setsKey key piece then some (valueOf piece) else none := by
  rw [lastValue?, List.filter_cons, List.filter_nil]
  split <;> rfl

/-- Pieces behind others override what these made of the options. -/
theorem overriddenBy_append (options : Options) (pieces others : List (List Char)) :
    options.overriddenBy (pieces ++ others) =
      (options.overriddenBy pieces).overriddenBy others := by
  simp only [overriddenBy, lastValue?_append, Option.map_or, Option.getD_or]

/-- A piece that sets nothing leaves the options as they are. -/
theorem overriddenBy_of_notMem {piece : List Char} (h : '=' ∉ piece) (options : Options) :
    options.overriddenBy [piece] = options := by
  simp [overriddenBy, lastValue?_singleton, setsKey, h]

/-! ## One piece -/

section
variable {piece : List Char}

/-- A piece that is not blank is a setting. It fails if the piece is refused, and otherwise sets
what the piece says. -/
theorem withSetting?_eq (hblank : ¬ piece.all Text.isBlank) (options : Options) :
    options.withSetting? (Text.trim piece) =
      if IsRefused piece then none else some (options.overriddenBy [piece]) := by
  by_cases hequals : '=' ∈ piece
  · have hrefused : IsRefused piece ↔ keyOf piece ∉ keys ∨
        keyOf piece = "comments" ∧ valueOf piece ≠ "true" ∧ valueOf piece ≠ "false" := by
      rw [IsRefused, and_iff_right hblank, or_iff_right (not_not.mpr hequals)]
    have hsets : ∀ key, setsKey key piece = decide (keyOf piece = key) := by
      simp [setsKey, hequals]
    rw [withSetting?_trim hequals]
    simp only [overriddenBy, lastValue?_singleton, hsets, hrefused]
    by_cases hmodule : keyOf piece = "runtime_module"
    · simp [hmodule, keys]
    by_cases hfile : keyOf piece = "runtime_file"
    · simp [hfile, keys]
    by_cases hcomments : keyOf piece = "comments"
    · by_cases htrue : valueOf piece = "true"
      · simp [hcomments, htrue, keys, readBool?]
      by_cases hfalse : valueOf piece = "false"
      · simp [hcomments, hfalse, keys, readBool?]
      simp [hcomments, htrue, hfalse, keys, readBool?]
    · simp [hmodule, hfile, hcomments, keys]
  · have htrim : '=' ∉ Text.trim piece := fun hmem => hequals (Text.mem_of_mem_trim hmem)
    rw [withSetting?, splitSetting_of_notMem htrim, if_pos ⟨hblank, .inl hequals⟩]

end

/-! ## All pieces -/

/-- The settings that are in pieces. -/
def settingsIn (pieces : List (List Char)) : List (List Char) :=
  (pieces.map Text.trim).filter (!·.isEmpty)

/-- The settings in pieces are those in one part of them and then those in the other. -/
theorem settingsIn_append (pieces others : List (List Char)) :
    settingsIn (pieces ++ others) = settingsIn pieces ++ settingsIn others := by
  rw [settingsIn, List.map_append, List.filter_append]
  rfl

/-- A piece is one setting unless it is blank. -/
theorem settingsIn_singleton (piece : List Char) :
    settingsIn [piece] = if piece.all Text.isBlank then [] else [Text.trim piece] := by
  have hempty : (Text.trim piece).isEmpty = piece.all Text.isBlank := by
    rw [Bool.eq_iff_iff, List.isEmpty_iff, Text.trim_eq_nil_iff, List.all_eq_true]
  rw [settingsIn, List.map_cons, List.map_nil, List.filter_cons, List.filter_nil, hempty]
  cases piece.all Text.isBlank <;> rfl

/-- Settings behind others are applied to what these made of the options. -/
theorem applyAll_append (options : Options) (settings others : List (List Char)) :
    options.applyAll (settings ++ others) =
      options.applyAll settings >>= fun options => options.applyAll others := by
  induction settings generalizing options with
  | nil => rfl
  | cons setting settings ih =>
    rw [List.cons_append, applyAll, applyAll]
    cases options.withSetting? setting with
    | none => rfl
    | some options => exact ih options

/-- One piece is refused or overrides the options. -/
theorem applyAll_singleton (options : Options) (piece : List Char) :
    options.applyAll (settingsIn [piece]) =
      if IsRefused piece then .error (.invalidParameter (String.ofList (Text.trim piece)))
      else .ok (options.overriddenBy [piece]) := by
  rw [settingsIn_singleton]
  by_cases hblank : piece.all Text.isBlank
  · have hequals : '=' ∉ piece := fun hmem =>
      not_isBlank_equals (List.all_eq_true.mp hblank _ hmem)
    rw [if_pos hblank, if_neg fun h => h.1 hblank, overriddenBy_of_notMem hequals]
    rfl
  · rw [if_neg hblank, applyAll, withSetting?_eq hblank]
    by_cases hrefused : IsRefused piece
    · rw [if_pos hrefused, if_pos hrefused]
    · rw [if_neg hrefused, if_neg hrefused]
      rfl

/-- Pieces none of which is refused override the options. -/
theorem applyAll_of_forall {pieces : List (List Char)} (h : ∀ piece ∈ pieces, ¬ IsRefused piece)
    (options : Options) :
    options.applyAll (settingsIn pieces) = .ok (options.overriddenBy pieces) := by
  induction pieces generalizing options with
  | nil => rfl
  | cons piece pieces ih =>
    obtain ⟨hpiece, hpieces⟩ := List.forall_mem_cons.mp h
    rw [← List.singleton_append, settingsIn_append, applyAll_append, applyAll_singleton,
      if_neg hpiece, overriddenBy_append]
    exact ih hpieces _

/-- Pieces are refused for the first of them that is. -/
theorem applyAll_of_firstRefused {pieces : List (List Char)} {piece : List Char}
    (h : FirstRefused pieces piece) (options : Options) :
    options.applyAll (settingsIn pieces) =
      .error (.invalidParameter (String.ofList (Text.trim piece))) := by
  obtain ⟨before, after, rfl, hbefore, hpiece⟩ := h
  rw [← List.singleton_append, settingsIn_append, settingsIn_append, applyAll_append,
    applyAll_of_forall hbefore]
  rw [bind_eq_error]
  refine .inr ⟨_, rfl, ?_⟩
  rw [applyAll_append, applyAll_singleton, if_pos hpiece]
  rfl

/-- Of pieces either none is refused, or one is the first that is. -/
theorem forall_or_firstRefused (pieces : List (List Char)) :
    (∀ piece ∈ pieces, ¬ IsRefused piece) ∨ ∃ piece, FirstRefused pieces piece := by
  cases hfind : pieces.find? (IsRefused ·) with
  | none => exact .inl (by simpa using hfind)
  | some piece =>
    obtain ⟨hpiece, before, after, hsplit, hbefore⟩ := List.find?_eq_some_iff_append.mp hfind
    exact .inr ⟨piece, before, after, hsplit, by simpa using hbefore, by simpa using hpiece⟩

/-- The first piece that is refused is one of the pieces, and is refused. -/
theorem FirstRefused.mem {pieces : List (List Char)} {piece : List Char}
    (h : FirstRefused pieces piece) : piece ∈ pieces ∧ IsRefused piece := by
  obtain ⟨before, after, rfl, -, hpiece⟩ := h
  exact ⟨List.mem_append_right _ List.mem_cons_self, hpiece⟩

/-- Pieces make options exactly if none of them is refused, and then they override those before. -/
theorem applyAll_eq_ok {pieces : List (List Char)} {options options' : Options} :
    options.applyAll (settingsIn pieces) = .ok options' ↔
      (∀ piece ∈ pieces, ¬ IsRefused piece) ∧ options' = options.overriddenBy pieces := by
  rcases forall_or_firstRefused pieces with h | ⟨piece, h⟩
  · rw [applyAll_of_forall h, Except.ok.injEq, and_iff_right h, eq_comm]
  · obtain ⟨hmem, hpiece⟩ := h.mem
    rw [applyAll_of_firstRefused h]
    exact iff_of_false nofun fun hok => hok.1 piece hmem hpiece

/-- Pieces fail exactly if one of them is refused, and then for the first such. -/
theorem applyAll_eq_error {pieces : List (List Char)} {options : Options} {failure : Failure} :
    options.applyAll (settingsIn pieces) = .error failure ↔
      ∃ piece, FirstRefused pieces piece ∧
        failure = .invalidParameter (String.ofList (Text.trim piece)) := by
  constructor
  · intro h
    rcases forall_or_firstRefused pieces with hall | ⟨piece, hpiece⟩
    · rw [applyAll_of_forall hall] at h
      cases h
    · rw [applyAll_of_firstRefused hpiece] at h
      cases h
      exact ⟨piece, hpiece, rfl⟩
  · rintro ⟨piece, hpiece, rfl⟩
    exact applyAll_of_firstRefused hpiece options

/-! ## Options as parameters -/

/-- A piece that sets a key to a value, with any white space around itself, the key and the
value. -/
def Assigns (key value : String) (piece : List Char) : Prop :=
  ∃ before behindKey beforeValue behind : List Char,
    (before ++ behindKey ++ beforeValue ++ behind).all Text.isBlank ∧
    piece = before ++ key.toList ++ behindKey ++ '=' :: (beforeValue ++ value.toList ++ behind)

/-- The text of a truth value. -/
def truthText (truth : Bool) : String := if truth then "true" else "false"

/-- A parameter that sets every option, in any order, to what it is. -/
def Spells (parameter : String) (options : Options) : Prop :=
  ∃ (module file comments : List Char) (pieces : List (List Char)),
    Assigns "runtime_module" options.runtimeModule module ∧
    Assigns "runtime_file" options.runtimeFile file ∧
    Assigns "comments" (truthText options.comments) comments ∧
    pieces.Perm [module, file, comments] ∧
    parameter = String.ofList (Text.joined ',' pieces)

/-- Options that have neither commas in their texts nor white space at the ends of these. -/
def IsSpellable (options : Options) : Prop :=
  ∀ text ∈ [options.runtimeModule, options.runtimeFile],
    ',' ∉ text.toList ∧ Text.IsTrimmed text.toList

instance : DecidablePred IsSpellable := fun _ =>
  inferInstanceAs (Decidable (∀ text ∈ [_, _], _))

/-- No key has an equals sign, a comma, or white space at its ends. -/
theorem key_plain : ∀ key ∈ keys,
    '=' ∉ key.toList ∧ ',' ∉ key.toList ∧ Text.IsTrimmed key.toList := by
  decide

/-- The text of a truth value can stand in a parameter, and is read as that value. -/
theorem truthText_plain (truth : Bool) :
    ',' ∉ (truthText truth).toList ∧ Text.IsTrimmed (truthText truth).toList ∧
      (truthText truth = "true" ∨ truthText truth = "false") ∧
      (truthText truth == "true") = truth := by
  cases truth <;> decide

/-- A piece that stands for itself between commas and sets a key to a value. -/
structure SetsTo (key value : String) (piece : List Char) : Prop where
  comma_notMem : ',' ∉ piece
  equals_mem : '=' ∈ piece
  keyOf_eq : keyOf piece = key
  valueOf_eq : valueOf piece = value

section
variable {key value : String} {piece : List Char}

/-- White space around the key and the value does not count. -/
theorem Assigns.setsTo (h : Assigns key value piece) (hkey : key ∈ keys)
    (hcomma : ',' ∉ value.toList) (htrimmed : Text.IsTrimmed value.toList) :
    SetsTo key value piece := by
  obtain ⟨before, behindKey, beforeValue, behind, hblank, rfl⟩ := h
  obtain ⟨hkeyEquals, hkeyComma, hkeyTrimmed⟩ := key_plain key hkey
  rw [List.all_eq_true] at hblank
  have hblankComma : ',' ∉ before ++ behindKey ++ beforeValue ++ behind := fun hmem =>
    absurd (hblank _ hmem) (by decide)
  simp only [List.forall_mem_append] at hblank
  obtain ⟨⟨⟨hbefore, hbehindKey⟩, hbeforeValue⟩, hbehind⟩ := hblank
  have hfront : '=' ∉ before ++ key.toList ++ behindKey := by
    simp only [List.mem_append, not_or]
    exact ⟨⟨fun h => not_isBlank_equals (hbefore _ h), hkeyEquals⟩,
      fun h => not_isBlank_equals (hbehindKey _ h)⟩
  refine ⟨?_, by simp, ?_, ?_⟩
  · simp only [List.mem_append, not_or] at hblankComma
    simp [hblankComma, hkeyComma, hcomma]
  · rw [keyOf_append hfront, Text.trim_append_blank hbehindKey, Text.trim_blank_append hbefore,
      hkeyTrimmed.trim_eq, String.ofList_toList]
  · rw [valueOf_append hfront, Text.trim_append_blank hbehind, Text.trim_blank_append hbeforeValue,
      htrimmed.trim_eq, String.ofList_toList]

/-- A piece that sets a key sets no other. -/
theorem SetsTo.setsKey_eq (h : SetsTo key value piece) (other : String) :
    setsKey other piece = decide (key = other) := by
  simp [setsKey, h.equals_mem, h.keyOf_eq]

/-- A piece that sets an option is not refused, if it sets comments to a truth value. -/
theorem SetsTo.not_isRefused (h : SetsTo key value piece) (hkey : key ∈ keys)
    (hvalue : key = "comments" → value = "true" ∨ value = "false") : ¬ IsRefused piece := by
  rintro ⟨-, hrefused⟩
  rw [h.keyOf_eq, h.valueOf_eq] at hrefused
  rcases hrefused with hnone | hunknown | ⟨hcomments, htrue, hfalse⟩
  · exact hnone h.equals_mem
  · exact hunknown hkey
  · exact (hvalue hcomments).elim htrue hfalse

/-- The order of pieces does not count for a key that one of them sets. -/
theorem SetsTo.lastValue?_eq (h : SetsTo key value piece) {pieces others : List (List Char)}
    (hperm : pieces.Perm others) (hone : others.filter (setsKey key) = [piece]) :
    lastValue? key pieces = some value := by
  have hfilter := hperm.filter (setsKey key)
  rw [hone, List.perm_singleton] at hfilter
  rw [lastValue?, hfilter, ← h.valueOf_eq]
  rfl

end

/-- Pieces that set every option leave nothing of the options that they override. -/
theorem overriddenBy_of_perm (overridden : Options) {options : Options}
    {module file comments : List Char} {pieces : List (List Char)}
    (hmodule : SetsTo "runtime_module" options.runtimeModule module)
    (hfile : SetsTo "runtime_file" options.runtimeFile file)
    (hcomments : SetsTo "comments" (truthText options.comments) comments)
    (hperm : pieces.Perm [module, file, comments]) : overridden.overriddenBy pieces = options := by
  have hlastModule := hmodule.lastValue?_eq hperm
    (by simp [hmodule.setsKey_eq, hfile.setsKey_eq, hcomments.setsKey_eq])
  have hlastFile := hfile.lastValue?_eq hperm
    (by simp [hmodule.setsKey_eq, hfile.setsKey_eq, hcomments.setsKey_eq])
  have hlastComments := hcomments.lastValue?_eq hperm
    (by simp [hmodule.setsKey_eq, hfile.setsKey_eq, hcomments.setsKey_eq])
  obtain ⟨-, -, -, htruth⟩ := truthText_plain options.comments
  rw [overriddenBy, hlastModule, hlastFile, hlastComments, Option.map_some, htruth]
  rfl

/-- Options are had from any parameter that spells them. -/
theorem parse_of_spells {options : Options} {parameter : String} (hplain : options.IsSpellable)
    (h : Spells parameter options) : parse parameter = .ok options := by
  obtain ⟨module, file, comments, pieces, hmodule, hfile, hcomments, hperm, rfl⟩ := h
  obtain ⟨hmoduleComma, hmoduleTrimmed⟩ := hplain options.runtimeModule (by simp)
  obtain ⟨hfileComma, hfileTrimmed⟩ := hplain options.runtimeFile (by simp)
  obtain ⟨htruthComma, htruthTrimmed, htruth, -⟩ := truthText_plain options.comments
  have hmodule := hmodule.setsTo (by decide) hmoduleComma hmoduleTrimmed
  have hfile := hfile.setsTo (by decide) hfileComma hfileTrimmed
  have hcomments := hcomments.setsTo (by decide) htruthComma htruthTrimmed
  have hall {p : List Char → Prop} (hm : p module) (hf : p file) (hc : p comments) :
      ∀ piece ∈ pieces, p piece := by
    intro piece hpiece
    have hmem := hperm.mem_iff.mp hpiece
    simp only [List.mem_cons, List.not_mem_nil, or_false] at hmem
    rcases hmem with rfl | rfl | rfl
    · exact hm
    · exact hf
    · exact hc
  have hcommas : ∀ piece ∈ pieces, ',' ∉ piece :=
    hall hmodule.comma_notMem hfile.comma_notMem hcomments.comma_notMem
  have hrefused : ∀ piece ∈ pieces, ¬ IsRefused piece :=
    hall (hmodule.not_isRefused (by decide) fun h => absurd h (by decide))
      (hfile.not_isRefused (by decide) fun h => absurd h (by decide))
      (hcomments.not_isRefused (by decide) fun _ => htruth)
  have hpieces : Text.pieces ',' (Text.joined ',' pieces) = pieces := by
    refine Text.pieces_joined ?_ hcommas
    rintro rfl
    simp at hperm
  rw [parse, String.toList_ofList, settings, hpieces]
  rw [← overriddenBy_of_perm {} hmodule hfile hcomments hperm]
  exact applyAll_of_forall hrefused {}

/-! ## Parameters behind one another -/

/-- A comma between two parameters separates the pieces of one from those of the other. -/
theorem parse_append (s t : String) :
    parse (s ++ "," ++ t) =
      parse s >>= fun options => options.applyAll (settingsIn (Text.pieces ',' t.toList)) := by
  have hchars : (s ++ "," ++ t).toList = s.toList ++ ',' :: t.toList := by simp
  have hsettings : settings (s ++ "," ++ t).toList =
      settings s.toList ++ settingsIn (Text.pieces ',' t.toList) := by
    rw [hchars, settings, Text.pieces_append_cons]
    exact settingsIn_append _ _
  rw [parse, hsettings, applyAll_append]
  rfl

/-- A parameter is a list of settings, of which a later one overrides an earlier one, and the first
that is refused is the failure. It is read if none of its pieces is refused, and then gives the
default options as its pieces override them; otherwise it fails for the first piece that is refused.
What is behind the comma after a parameter that fails does not count. Behind one that is read it
fails exactly if and as it does alone, and otherwise overrides the options there. And options that
can be spelled are had from every parameter that spells them. -/
theorem parse_overrides :
    (∀ (s : String) (options : Options), parse s = .ok options ↔
      (∀ piece ∈ Text.pieces ',' s.toList, ¬ IsRefused piece) ∧
        options = overriddenBy {} (Text.pieces ',' s.toList)) ∧
    (∀ (s : String) (failure : Failure), parse s = .error failure ↔
      ∃ piece, FirstRefused (Text.pieces ',' s.toList) piece ∧
        failure = .invalidParameter (String.ofList (Text.trim piece))) ∧
    (∀ (s t : String) (failure : Failure), parse s = .error failure →
      parse (s ++ "," ++ t) = .error failure) ∧
    (∀ (s t : String) (options : Options), parse s = .ok options →
      (∀ failure, parse (s ++ "," ++ t) = .error failure ↔ parse t = .error failure) ∧
      ∀ options', parse (s ++ "," ++ t) = .ok options' ↔ (∃ alone, parse t = .ok alone) ∧
        options' = options.overriddenBy (Text.pieces ',' t.toList)) ∧
    ∀ (options : Options) (parameter : String), options.IsSpellable →
      Spells parameter options → parse parameter = .ok options := by
  refine ⟨fun s options => applyAll_eq_ok, fun s failure => applyAll_eq_error,
    fun s t failure h => ?_, fun s t options h => ?_, fun options parameter => parse_of_spells⟩
  · rw [parse_append, h]
    rfl
  · have hon : parse (s ++ "," ++ t) =
        options.applyAll (settingsIn (Text.pieces ',' t.toList)) := by
      rw [parse_append, h]
      rfl
    constructor
    · intro failure
      rw [hon, applyAll_eq_error]
      exact applyAll_eq_error.symm
    · intro options'
      rw [hon, applyAll_eq_ok]
      refine and_congr_left fun _ => ⟨fun hall => ⟨_, applyAll_of_forall hall {}⟩, ?_⟩
      rintro ⟨alone, halone⟩
      exact (applyAll_eq_ok.mp halone).1

/-- A value with an equals sign in it overrides another, and white space alone is an empty value. A
piece without an equals sign is refused before one with an unknown key. -/
theorem parse_overrides_runtime :
    parse "runtime_module=a, comments = false" = .ok ⟨"a", "protobuf_runtime.rs", false⟩ ∧
    parse ("runtime_module=a, comments = false" ++ "," ++ ",runtime_module=b=c,runtime_file= ") =
      .ok ⟨"b=c", "", false⟩ ∧
    parse "runtime_module=a, comments " = .error (.invalidParameter "comments") ∧
    parse ("runtime_module=a, comments " ++ "," ++ "flavor=spicy") =
      .error (.invalidParameter "comments") ∧
    IsSpellable ⟨"b=c", "", false⟩ ∧
    Spells "comments=false\t, runtime_module\n=b=c,runtime_file= " ⟨"b=c", "", false⟩ ∧
    parse "comments=false\t, runtime_module\n=b=c,runtime_file= " = .ok ⟨"b=c", "", false⟩ := by
  obtain ⟨-, -, hfails, hbehind, hspelled⟩ := parse_overrides
  have hfront : parse "runtime_module=a, comments = false" =
      .ok ⟨"a", "protobuf_runtime.rs", false⟩ := rfl
  have hrefused : parse "runtime_module=a, comments " = .error (.invalidParameter "comments") := rfl
  have hback : parse ",runtime_module=b=c,runtime_file= " = .ok ⟨"b=c", "", true⟩ := rfl
  have hspellable : IsSpellable ⟨"b=c", "", false⟩ := by decide
  have hspells : Spells "comments=false\t, runtime_module\n=b=c,runtime_file= "
      ⟨"b=c", "", false⟩ :=
    ⟨" runtime_module\n=b=c".toList, "runtime_file= ".toList, "comments=false\t".toList,
      ["comments=false\t".toList, " runtime_module\n=b=c".toList, "runtime_file= ".toList],
      ⟨[' '], ['\n'], [], [], by decide, by decide⟩, ⟨[], [], [' '], [], by decide, by decide⟩,
      ⟨[], [], [], ['\t'], by decide, by decide⟩, by decide, by decide⟩
  refine ⟨hfront, ?_, hrefused, hfails _ _ _ hrefused, hspellable, hspells,
    hspelled _ _ hspellable hspells⟩
  exact ((hbehind _ _ _ hfront).2 _).mpr ⟨⟨_, hback⟩, by decide⟩

end Wiregen.Options
