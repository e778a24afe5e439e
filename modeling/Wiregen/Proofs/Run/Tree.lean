import Mathlib.Logic.Function.Basic
import Wiregen.Failure
import Wiregen.Run.Disk

/-!
# Places of a tree

The places of a tree are lists of names that lead down from its root, and `Entries.view` says what
stands at each. A name that comes to stand for a node changes the view at that one place
(`Location.IsIn.view_put`). Going along names leads to the place they spell, whatever the tree
(`Location.IsIn.enter_all`), and where directories stay it goes on leading there
(`Location.IsIn.enter_all_of_keeps`).
-/

namespace Wiregen.Run

/-! ## Views -/

/-- What stands at a place: a node, a directory without its entries. -/
inductive Thing where
  | file (content : List UInt8)
  | device (device : Device)
  | directory
  deriving DecidableEq

/-- What a node is. -/
def Node.thing : Node → Thing
  | .file content => .file content
  | .device d => .device d
  | .directory _ => .directory

/-- What names lead to, down from a node. -/
def Node.view : List String → Node → Option Thing
  | [], node => some node.thing
  | name :: names, .directory entries => (entries.lookup name).bind (view names)
  | _ :: _, .file _ | _ :: _, .device _ => none

/-- What names lead to, down from a directory with the given entries. -/
def Entries.view (entries : Entries) (names : List String) : Option Thing :=
  Node.view names (.directory entries)

namespace Entries

variable {entries : Entries} {name other : String} {node : Node}

@[simp] theorem view_nil (entries : Entries) : entries.view [] = some .directory := rfl

/-- The first name leads to a node, and the others down from that. -/
theorem view_cons (entries : Entries) (name : String) (names : List String) :
    entries.view (name :: names) = (entries.lookup name).bind (Node.view names) := rfl

/-- One name leads to what it stands for. -/
theorem view_singleton (entries : Entries) (name : String) :
    entries.view [name] = (entries.lookup name).map Node.thing := by
  rw [view_cons]
  cases entries.lookup name <;> rfl

/-- Nothing stands below what is no directory. -/
theorem view_below (h : ∀ inner, entries.lookup name ≠ some (.directory inner)) (next : String)
    (names : List String) : entries.view (name :: next :: names) = none := by
  rw [view_cons]
  rcases hnode : entries.lookup name with _ | ⟨_ | _ | inner⟩
  · rfl
  · rfl
  · rfl
  · exact absurd hnode (h inner)

/-- A name stands for the same once another is taken out. -/
theorem lookup_filter_ne (h : other ≠ name) (entries : Entries) :
    (entries.filter fun entry => entry.1 ≠ name).lookup other = entries.lookup other := by
  induction entries with
  | nil => rfl
  | cons entry entries ih =>
    obtain ⟨first, node⟩ := entry
    by_cases hfirst : first = name
    · have hne : (other == first) = false := by simpa [hfirst] using h
      rw [List.filter_cons_of_neg (by simpa using hfirst), ih, List.lookup_cons, hne]
    · rw [List.filter_cons_of_pos (by simpa using hfirst), List.lookup_cons, List.lookup_cons, ih]

/-- A name that is put stands for its node. -/
theorem lookup_put_self : (entries.put name node).lookup name = some node := by
  simp [put]

/-- Other names stand for what they stood for. -/
theorem lookup_put_of_ne (h : other ≠ name) :
    (entries.put name node).lookup other = entries.lookup other := by
  have hne : (other == name) = false := by simpa using h
  rw [put, List.lookup_cons, hne]
  exact lookup_filter_ne h entries

end Entries

/-! ## Places of directories -/

namespace Location

/-- The names that lead down to the directory. -/
def place (location : Location) : List String := (location.above.map Prod.fst).reverse

/-- From the root, the names of directories lead down to a directory with these entries. -/
def LeadsTo (root entries : Entries) : List (String × Entries) → Prop
  | [] => root = entries
  | (name, outer) :: above =>
    outer.lookup name = some (.directory entries) ∧ LeadsTo root outer above

/-- The location is one of the tree. -/
def IsIn (location : Location) (root : Entries) : Prop :=
  LeadsTo root location.entries location.above

variable {root entries : Entries} {above : List (String × Entries)} {location next : Location}
  {name : String} {node : Node}

/-- Names behind those that lead to a directory lead down from it. -/
theorem view_append (h : LeadsTo root entries above) (names : List String) :
    root.view ((above.map Prod.fst).reverse ++ names) = entries.view names := by
  induction above generalizing entries names with
  | nil => rw [show root = entries from h, List.map_nil, List.reverse_nil, List.nil_append]
  | cons outer above ih =>
    obtain ⟨name, outer⟩ := outer
    obtain ⟨hname, houter⟩ := h
    rw [List.map_cons, List.reverse_cons, List.append_assoc, List.singleton_append, ih houter,
      Entries.view_cons, hname]
    rfl

/-- Below a directory, the tree with other entries there has those. -/
theorem view_rootOver (entries : Entries) (above : List (String × Entries)) (names : List String) :
    (rootOver entries above).view ((above.map Prod.fst).reverse ++ names) = entries.view names := by
  induction above generalizing entries names with
  | nil => rfl
  | cons outer above ih =>
    obtain ⟨name, outer⟩ := outer
    rw [rootOver, List.map_cons, List.reverse_cons, List.append_assoc, List.singleton_append, ih,
      Entries.view_cons, Entries.lookup_put_self]
    rfl

/-- Elsewhere, the tree with other entries in a directory is as it was. -/
theorem view_rootOver_of_not (h : LeadsTo root entries above) (entries' : Entries)
    {names : List String} (hnames : ¬ (above.map Prod.fst).reverse <+: names) :
    (rootOver entries' above).view names = root.view names := by
  induction above generalizing entries entries' with
  | nil => exact absurd List.nil_prefix hnames
  | cons outer above ih =>
    obtain ⟨name, outer⟩ := outer
    obtain ⟨-, houter⟩ := h
    rw [List.map_cons, List.reverse_cons] at hnames
    by_cases hbelow : (above.map Prod.fst).reverse <+: names
    · obtain ⟨names, rfl⟩ := hbelow
      rw [rootOver, view_rootOver, view_append houter]
      cases names with
      | nil => rfl
      | cons other names =>
        have hne : other ≠ name := by
          rintro rfl
          exact hnames ⟨names, by simp⟩
        rw [Entries.view_cons, Entries.view_cons, Entries.lookup_put_of_ne hne]
    · exact ih houter _ hbelow

namespace IsIn

variable (h : location.IsIn root)
include h

/-- A name behind the place of a directory leads to what it stands for there. -/
theorem view_name (name : String) :
    root.view (location.place ++ [name]) = (location.entries.lookup name).map Node.thing := by
  rw [place, view_append h, Entries.view_singleton]

/-- A name comes to stand for a node without anything below, in place of one without anything
below. -/
theorem view_put (hold : ∀ inner, location.entries.lookup name ≠ some (.directory inner))
    (hnode : ∀ next names, Node.view (next :: names) node = none) :
    (location.put name node).view =
      Function.update root.view (location.place ++ [name]) (some node.thing) := by
  funext names
  rw [Function.update_apply]
  by_cases hbelow : location.place <+: names
  · obtain ⟨names, rfl⟩ := hbelow
    simp only [List.append_cancel_left_eq]
    rw [put, place, view_rootOver, view_append h]
    match names with
    | [] => rfl
    | other :: names =>
      by_cases hother : other = name
      · subst hother
        rw [Entries.view_cons, Entries.lookup_put_self, Option.bind_some]
        cases names with
        | nil => rw [if_pos rfl, Node.view]
        | cons next names =>
          rw [if_neg (by simp), hnode, Entries.view_below hold]
      · rw [if_neg (by simp [hother]), Entries.view_cons, Entries.view_cons,
          Entries.lookup_put_of_ne hother]
  · rw [if_neg (fun hnames => hbelow ⟨[name], hnames.symm⟩), put]
    exact view_rootOver_of_not h _ hbelow

end IsIn

/-! ## Going along names -/

/-- The place that a name leads to from a place. -/
def nextPlace (place : List String) (name : String) : List String :=
  if name = ".." then place.dropLast else place ++ [name]

/-- Names none of which leads up lead down. -/
theorem foldl_nextPlace {names : List String} (h : ".." ∉ names) (place : List String) :
    names.foldl nextPlace place = place ++ names := by
  induction names generalizing place with
  | nil => rw [List.foldl_nil, List.append_nil]
  | cons name names ih =>
    rw [List.mem_cons, not_or] at h
    rw [List.foldl_cons, nextPlace, if_neg (Ne.symm h.1), ih h.2, List.append_assoc,
      List.singleton_append]

/-- The directory above has the place without its last name. -/
theorem parent_place (location : Location) : location.parent.place = location.place.dropLast := by
  obtain ⟨entries, _ | ⟨⟨name, outer⟩, above⟩⟩ := location <;> simp [parent, place]

/-- The directory above one of the tree is one of the tree. -/
theorem IsIn.parent (h : location.IsIn root) : location.parent.IsIn root := by
  obtain ⟨entries, _ | ⟨⟨name, outer⟩, above⟩⟩ := location
  · exact h
  · exact h.2

/-- A name that does not lead up is found as it is listed, unless it is too long. -/
theorem find_eq_ok {found : Option Node} (hup : name ≠ "..") :
    location.find name = .ok found ↔
      name.utf8ByteSize ≤ maxNameBytes ∧ location.entries.lookup name = found := by
  rw [find, if_neg hup]
  split
  next hlong => simp [Nat.not_le.mpr hlong]
  next hshort => simp [Nat.not_lt.mp hshort]

/-- A name that leads up stands for a directory, any other for what is listed. -/
theorem find_cases {found : Option Node} (h : location.find name = .ok found) :
    (∃ entries, found = some (.directory entries)) ∨
      name ≠ ".." ∧ name.utf8ByteSize ≤ maxNameBytes ∧ location.entries.lookup name = found := by
  by_cases hup : name = ".."
  · subst hup
    exact .inl ⟨_, (Except.ok.inj h).symm⟩
  · exact .inr ⟨hup, (find_eq_ok hup).mp h⟩

/-- A name that does not lead up leads to the directory that it stands for, unless it is too long.
-/
theorem enter_eq_ok (hup : name ≠ "..") :
    location.enter name = .ok next ↔ name.utf8ByteSize ≤ maxNameBytes ∧
      ∃ entries, location.entries.lookup name = some (.directory entries) ∧
        ⟨entries, (name, location.entries) :: location.above⟩ = next := by
  rw [enter, if_neg hup, bind_eq_ok]
  simp only [find_eq_ok hup]
  constructor
  · rintro ⟨found, ⟨hsize, rfl⟩, h⟩
    split at h
    · cases h
    next entries hentries => exact ⟨hsize, entries, hentries, Except.ok.inj h⟩
    · cases h
  · rintro ⟨hsize, entries, hentries, rfl⟩
    exact ⟨_, ⟨hsize, hentries⟩, rfl⟩

/-- A name leads from a directory of the tree to another, and to the next place. -/
theorem IsIn.enter (h : location.IsIn root) (henter : location.enter name = .ok next) :
    next.IsIn root ∧ next.place = nextPlace location.place name := by
  by_cases hup : name = ".."
  · subst hup
    obtain rfl : location.parent = next := Except.ok.inj henter
    exact ⟨h.parent, parent_place location⟩
  · obtain ⟨-, entries, hentries, rfl⟩ := (enter_eq_ok hup).mp henter
    refine ⟨⟨hentries, h⟩, ?_⟩
    rw [nextPlace, if_neg hup]
    simp [place]

/-- Names lead from a directory of the tree to another, and to the place they spell. -/
theorem IsIn.enter_all {names : List String} (h : location.IsIn root)
    (henter : names.foldlM Location.enter location = .ok next) :
    next.IsIn root ∧ next.place = names.foldl nextPlace location.place := by
  induction names generalizing location with
  | nil =>
    obtain rfl : location = next := Except.ok.inj henter
    exact ⟨h, rfl⟩
  | cons name names ih =>
    rw [List.foldlM_cons, bind_eq_ok] at henter
    obtain ⟨inner, hinner, henter⟩ := henter
    obtain ⟨hin, hplace⟩ := h.enter hinner
    rw [List.foldl_cons, ← hplace]
    exact ih hin henter

section
variable {root' : Entries} {location' : Location}
  (hkeeps : ∀ place, root.view place = some .directory → root'.view place = some .directory)
  (h : location.IsIn root) (h' : location'.IsIn root') (hplace : location'.place = location.place)
include hkeeps h h' hplace

/-- Where directories stay, a name that leads to one goes on leading there. -/
theorem IsIn.enter_of_keeps (henter : location.enter name = .ok next) :
    ∃ next', location'.enter name = .ok next' ∧ next'.place = next.place := by
  have hnext := (h.enter henter).2
  by_cases hup : name = ".."
  · subst hup
    have henter' : location'.enter ".." = .ok location'.parent := rfl
    exact ⟨_, henter', by rw [hnext, (h'.enter henter').2, hplace]⟩
  · obtain ⟨hsize, entries, hentries, -⟩ := (enter_eq_ok hup).mp henter
    have hview : root.view (location.place ++ [name]) = some .directory := by
      rw [h.view_name, hentries]
      rfl
    have hview' := hkeeps _ hview
    rw [← hplace, h'.view_name] at hview'
    obtain ⟨node, hnode, hthing⟩ := Option.map_eq_some_iff.mp hview'
    cases node with
    | file | device => cases hthing
    | directory entries' =>
      have henter' := (enter_eq_ok hup).mpr ⟨hsize, entries', hnode, rfl⟩
      exact ⟨_, henter', by rw [hnext, (h'.enter henter').2, hplace]⟩

/-- Names go on leading to the same place on a tree that has the directories of this one. -/
theorem IsIn.enter_all_of_keeps {names : List String}
    (henter : names.foldlM Location.enter location = .ok next) :
    ∃ next', names.foldlM Location.enter location' = .ok next' ∧ next'.place = next.place := by
  induction names generalizing location location' with
  | nil =>
    obtain rfl : location = next := Except.ok.inj henter
    exact ⟨location', rfl, hplace⟩
  | cons name names ih =>
    rw [List.foldlM_cons, bind_eq_ok] at henter
    obtain ⟨inner, hinner, henter⟩ := henter
    obtain ⟨inner', hinner', hsame⟩ := h.enter_of_keeps hkeeps h' hplace hinner
    obtain ⟨next', hnext', hend⟩ := ih (h.enter hinner).1 (h'.enter hinner').1 hsame henter
    refine ⟨next', ?_, hend⟩
    rw [List.foldlM_cons, bind_eq_ok]
    exact ⟨inner', hinner', hnext'⟩

end

end Location

end Wiregen.Run
