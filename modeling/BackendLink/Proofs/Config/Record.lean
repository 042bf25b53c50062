import BackendLink.Config.Document
import Mathlib.Data.List.Forall2
import Mathlib.Data.List.Nodup
import Mathlib.Data.List.Pairwise

/-!
# What the entries of a struct mean

A record is read off the entries of its mapping in the order of the text, but what comes of it does
not depend on that order, nor on entries whose keys are not known.

* `Record.Accepts` is a record read off entries, without the paths that errors name.
* `Record.Accepts.perm` and `Record.Accepts.align` carry it over to entries in another order and to
  the entries of another document.
* `Record.Accepts.get` is one setting: what is read of the value with its key.
-/

namespace BackendLink.Config
open Yaml

/-! ## Structs of a document -/

/-- The text of a key. -/
def keyName? (d : Document) (key : Node) : Option String :=
  match d.resolve key with
  | .scalar _ _ _ text => some (String.ofList text)
  | _ => none

/-- The entries that stand for a struct: those of a mapping, and none where nothing is written. -/
def entries? (d : Document) (node : Node) : Option (List (Node × Node)) :=
  match d.resolve node with
  | .mapping _ entries => some entries
  | .scalar _ _ .plain [] => some []
  | _ => none

/-- The value of the first entry with a key of this text. -/
def valueOf? (d : Document) (key : String) (entries : List (Node × Node)) : Option Node :=
  (entries.find? fun entry => keyName? d entry.1 = some key).map Prod.snd

theorem readKey_ok_iff {d : Document} {path : Path} {key : Node} {name : String} :
    (∃ step, readKey d path key = .ok (name, step)) ↔ keyName? d key = some name := by
  cases key with
  | scalar anchor tag style text => simp [readKey, keyName?, Document.resolve]
  | sequence anchor items => simp [readKey, keyName?, Document.resolve]
  | mapping anchor entries => simp [readKey, keyName?, Document.resolve]
  | cut => simp [readKey, keyName?, Document.resolve]
  | reference number =>
      simp only [readKey, readText, keyName?, bind, Except.bind]
      cases d.resolve (.reference number) <;> simp

theorem map_eq_ok_iff {ε α β : Type} {r : Except ε α} {f : α → β} {y : β} :
    r.map f = .ok y ↔ ∃ x, r = .ok x ∧ f x = y := by
  cases r <;> simp [Except.map]

/-- What is read does not depend on the path, which errors alone name. -/
def Steady {β : Type} (read : Reader β) : Prop :=
  ∀ ⦃d : Document⦄ ⦃path : Path⦄ (other : Path) ⦃node : Node⦄ ⦃x : β⦄,
    read d path node = .ok x → read d other node = .ok x

/-- When nodes of two documents are alike. -/
abbrev Likeness := Document → Document → Node → Node → Prop

/-- Nodes that are alike are read alike. -/
def Respects {β : Type} (like : Likeness) (read : Reader β) : Prop :=
  ∀ ⦃d d' : Document⦄ ⦃path : Path⦄ ⦃node node' : Node⦄ ⦃x : β⦄, like d d' node node' →
    read d path node = .ok x → ∃ other, read d' other node' = .ok x

/-! ## Fields -/

namespace Field

variable {α β γ : Type}

/-- The value of the field turns the record `a` into `b`, whatever path an error would have named. -/
def Sets (field : Field α) (d : Document) (value : Node) (a b : α) : Prop :=
  ∃ path, field.read d path value a = .ok b

def IsSteady (field : Field α) : Prop :=
  ∀ ⦃d : Document⦄ ⦃path : Path⦄ (other : Path) ⦃value : Node⦄ ⦃a b : α⦄,
    field.read d path value a = .ok b → field.read d other value a = .ok b

/-- Values that are alike set the field alike. -/
def Respects (field : Field α) (like : Likeness) : Prop :=
  ∀ ⦃d d' : Document⦄ ⦃v v' : Node⦄ ⦃a b : α⦄, like d d' v v' → field.Sets d v a b →
    field.Sets d' v' a b

/-- The field may be set after `later` as well as before it. -/
def Yields (field later : Field α) : Prop :=
  ∀ ⦃d : Document⦄ ⦃v w : Node⦄ ⦃a b c : α⦄, field.Sets d v a b → later.Sets d w b c →
    ∃ next, later.Sets d w a next ∧ field.Sets d v next c

def Apart (f g : Field α) : Prop := f.Yields g ∧ g.Yields f

/-- No value of the field changes what `get` gives. -/
def Keeps (field : Field α) (get : α → γ) : Prop :=
  ∀ ⦃d : Document⦄ ⦃v : Node⦄ ⦃a b : α⦄, field.Sets d v a b → get b = get a

variable {key key' : String} {read : Reader β} {read' : Reader γ} {set : β → α → α}
  {set' : γ → α → α}

theorem of_sets {d : Document} {value : Node} {a b : α} :
    (Field.of key read set).Sets d value a b ↔
      ∃ path x, read d path value = .ok x ∧ set x a = b :=
  exists_congr fun _ => map_eq_ok_iff

theorem of_steady (steady : Steady read) : (Field.of key read set).IsSteady := by
  intro d path other value a b done
  obtain ⟨x, given, rfl⟩ := map_eq_ok_iff.mp done
  exact map_eq_ok_iff.mpr ⟨x, steady other given, rfl⟩

theorem of_respects {like : Likeness} (respects : Config.Respects like read) :
    (Field.of key read set).Respects like := by
  intro d d' v v' a b alike sets
  obtain ⟨path, x, given, rfl⟩ := of_sets.mp sets
  obtain ⟨other, given'⟩ := respects alike given
  exact of_sets.mpr ⟨other, x, given', rfl⟩

theorem of_yields (comm : ∀ x y a, set' y (set x a) = set x (set' y a)) :
    (Field.of key read set).Yields (Field.of key' read' set') := by
  intro d v w a b c first second
  obtain ⟨path, x, given, rfl⟩ := of_sets.mp first
  obtain ⟨path', y, given', rfl⟩ := of_sets.mp second
  exact ⟨set' y a, of_sets.mpr ⟨path', y, given', rfl⟩,
    of_sets.mpr ⟨path, x, given, (comm x y a).symm⟩⟩

theorem of_apart (comm : ∀ x y a, set' y (set x a) = set x (set' y a)) :
    (Field.of key read set).Apart (Field.of key' read' set') :=
  ⟨of_yields comm, of_yields fun y x a => (comm x y a).symm⟩

theorem of_keeps {get : α → γ} (kept : ∀ x a, get (set x a) = get a) :
    (Field.of key read set).Keeps get := by
  intro d v a b sets
  obtain ⟨path, x, given, rfl⟩ := of_sets.mp sets
  exact kept x a

end Field

namespace Record

variable {α : Type} {record : Record α} {d d' : Document} {seen : List String}
  {entries entries' : List (Node × Node)} {a b : α}

/-- A record is read off entries, with the keys in `seen` taken: `a` becomes `b`. -/
inductive Accepts (record : Record α) (d : Document) :
    List String → List (Node × Node) → α → α → Prop
  | nil {seen : List String} {a : α} : Accepts record d seen [] a a
  | unknown {seen : List String} {key value : Node} {rest : List (Node × Node)} {name : String}
      {a b : α} (named : keyName? d key = some name) (strange : record.field? name = none)
      (whole : value.isWhole = true) (later : Accepts record d seen rest a b) :
      Accepts record d seen ((key, value) :: rest) a b
  | known {seen : List String} {key value : Node} {rest : List (Node × Node)} {name : String}
      {field : Field α} {a next b : α} (named : keyName? d key = some name)
      (found : record.field? name = some field) (fresh : name ∉ seen)
      (sets : field.Sets d value a next) (later : Accepts record d (name :: seen) rest next b) :
      Accepts record d seen ((key, value) :: rest) a b

/-- No field looks at the path. -/
def IsSteady (record : Record α) : Prop := ∀ field ∈ record.fields, field.IsSteady

/-- No two fields touch each other. -/
def IsApart (record : Record α) : Prop := record.fields.Pairwise Field.Apart

theorem mem_of_field? {name : String} {field : Field α} (found : record.field? name = some field) :
    field ∈ record.fields ∧ field.key = name :=
  ⟨List.mem_of_find?_eq_some found, by simpa using List.find?_some found⟩

theorem accepts_of_readEntries {path : Path}
    (read : record.readEntries d path seen entries a = .ok b) :
    record.Accepts d seen entries a b := by
  induction entries generalizing seen a with
  | nil => cases read; exact .nil
  | cons entry rest ih =>
      obtain ⟨key, value⟩ := entry
      simp only [readEntries, bind, Except.bind] at read
      cases given : readKey d path key with
      | error e => simp [given] at read
      | ok pair =>
          obtain ⟨name, step⟩ := pair
          have named := readKey_ok_iff.mp ⟨step, given⟩
          simp only [given] at read
          cases found : record.field? name with
          | none =>
              simp only [found] at read
              by_cases whole : value.isWhole
              · simp only [whole, if_true] at read
                exact .unknown named found whole (ih read)
              · simp [whole] at read
          | some field =>
              simp only [found] at read
              by_cases taken : name ∈ seen
              · simp [taken] at read
              · simp only [taken, if_false] at read
                cases sets : field.read d (path ++ [step]) value a with
                | error e => simp [sets] at read
                | ok next =>
                    simp only [sets] at read
                    exact .known named found taken ⟨_, sets⟩ (ih read)

theorem Accepts.readEntries (accepts : record.Accepts d seen entries a b)
    (steady : record.IsSteady) (path : Path) :
    record.readEntries d path seen entries a = .ok b := by
  induction accepts with
  | nil => rfl
  | unknown named strange whole later ih =>
      obtain ⟨step, given⟩ := (@readKey_ok_iff _ path _ _).mpr named
      simpa [Record.readEntries, bind, Except.bind, given, strange, whole] using ih
  | known named found fresh sets later ih =>
      obtain ⟨step, given⟩ := (@readKey_ok_iff _ path _ _).mpr named
      obtain ⟨other, done⟩ := sets
      have here := steady _ (mem_of_field? found).1 (path ++ [step]) done
      simpa [Record.readEntries, bind, Except.bind, given, found, fresh, here] using ih

theorem read_ok_iff (steady : record.IsSteady) {default : α} {path : Path} {node : Node} :
    record.read default d path node = .ok b ↔
      ∃ entries, entries? d node = some entries ∧ record.Accepts d [] entries default b := by
  unfold read
  dsimp only
  split
  · rename_i entries resolved
    have found : entries? d node = some entries := by rw [entries?, resolved]
    simp only [found, Option.some.injEq, exists_eq_left']
    exact ⟨accepts_of_readEntries, fun accepts => accepts.readEntries steady path⟩
  · rename_i resolved
    have found : entries? d node = some [] := by rw [entries?, resolved]
    simp only [found, Option.some.injEq, exists_eq_left', Except.ok.injEq]
    constructor
    · rintro rfl
      exact .nil
    · rintro ⟨⟩
      rfl
  · rename_i noMapping noScalar
    have absent : entries? d node = none := by
      unfold entries?
      split
      · rename_i resolved
        exact (noMapping _ _ resolved).elim
      · rename_i resolved
        exact (noScalar _ _ resolved).elim
      · rfl
    simp [absent]

theorem steady_read (steady : record.IsSteady) (default : α) : Steady (record.read default) := by
  intro d path other node x read
  rw [read_ok_iff steady] at read ⊢
  exact read

/-! ## The order of the entries -/

theorem Accepts.mono (accepts : record.Accepts d seen entries a b) {fewer : List String}
    (sub : fewer ⊆ seen) : record.Accepts d fewer entries a b := by
  induction accepts generalizing fewer with
  | nil => exact .nil
  | unknown named strange whole later ih => exact .unknown named strange whole (ih sub)
  | @known seen key value rest name field a next b named found fresh sets later ih =>
      refine .known named found (fun taken => fresh (sub taken)) sets (ih ?_)
      exact List.cons_subset_cons name sub

theorem IsApart.yields (apart : record.IsApart) {f g : Field α} (first : f ∈ record.fields)
    (second : g ∈ record.fields) (differ : f.key ≠ g.key) : f.Yields g := by
  have symmetric : Std.Symm (@Field.Apart α) := ⟨fun f g both => both.symm⟩
  exact (List.Pairwise.forall apart first second fun same => differ (same ▸ rfl)).1

theorem Accepts.perm (apart : record.IsApart) (perm : entries.Perm entries')
    (accepts : record.Accepts d seen entries a b) : record.Accepts d seen entries' a b := by
  induction perm generalizing seen a with
  | nil => exact accepts
  | cons entry perm ih =>
      cases accepts with
      | unknown named strange whole later => exact .unknown named strange whole (ih later)
      | known named found fresh sets later => exact .known named found fresh sets (ih later)
  | trans first second ih ih' => exact ih' (ih accepts)
  | swap entry other rest =>
      cases accepts with
      | unknown named strange whole later =>
          cases later with
          | unknown named' strange' whole' later =>
              exact .unknown named' strange' whole' (.unknown named strange whole later)
          | known named' found' fresh' sets' later =>
              exact .known named' found' fresh' sets' (.unknown named strange whole later)
      | known named found fresh sets later =>
          cases later with
          | unknown named' strange' whole' later =>
              exact .unknown named' strange' whole' (.known named found fresh sets later)
          | @known _ _ _ _ name' _ _ _ _ named' found' fresh' sets' later =>
              obtain ⟨mem, key⟩ := mem_of_field? found
              obtain ⟨mem', key'⟩ := mem_of_field? found'
              simp only [List.mem_cons, not_or] at fresh'
              obtain ⟨other, fresh'⟩ := fresh'
              have differ : _ ≠ _ := fun same => other (key'.symm.trans (same.symm.trans key))
              obtain ⟨next, first, second⟩ := apart.yields mem mem' differ sets sets'
              refine .known named' found' fresh' first (.known named found ?_ second (later.mono ?_))
              · simp [Ne.symm other, fresh]
              · intro n taken
                simp only [List.mem_cons] at taken ⊢
                tauto

end Record

/-! ## Another document -/

/-- The entries of one struct beside those of another. Those with known keys have values that are
alike; those with other keys are taken out and put in as one likes. -/
inductive Aligned (d d' : Document) (known : List (String × Likeness)) :
    List (Node × Node) → List (Node × Node) → Prop
  | nil : Aligned d d' known [] []
  | setting {key key' value value' : Node} {rest rest' : List (Node × Node)} {name : String}
      {like : Likeness} (here : (name, like) ∈ known) (named : keyName? d key = some name)
      (named' : keyName? d' key' = some name) (alike : like d d' value value')
      (later : Aligned d d' known rest rest') :
      Aligned d d' known ((key, value) :: rest) ((key', value') :: rest')
  | removed {key value : Node} {rest rest' : List (Node × Node)} {name : String}
      (named : keyName? d key = some name) (strange : name ∉ known.map Prod.fst)
      (later : Aligned d d' known rest rest') : Aligned d d' known ((key, value) :: rest) rest'
  | added {key value : Node} {rest rest' : List (Node × Node)} {name : String}
      (named : keyName? d' key = some name) (strange : name ∉ known.map Prod.fst)
      (whole : value.isWhole = true) (later : Aligned d d' known rest rest') :
      Aligned d d' known rest ((key, value) :: rest')

/-- The entries in any order, aligned with those of another struct. -/
def Reordered (d d' : Document) (known : List (String × Likeness))
    (entries entries' : List (Node × Node)) : Prop :=
  ∃ order, entries.Perm order ∧ Aligned d d' known order entries'

/-- Structs with these known keys that say the same in another order. -/
def structLike (known : List (String × Likeness)) : Likeness := fun d d' node node' =>
  ∃ entries entries', entries? d node = some entries ∧ entries? d' node' = some entries' ∧
    Reordered d d' known entries entries'

namespace Record

variable {α : Type} {record : Record α} {d d' : Document} {seen : List String}
  {entries entries' : List (Node × Node)} {a b : α}

/-- The known keys are the keys of the fields, and values that are alike set these alike. -/
structure Knows (record : Record α) (known : List (String × Likeness)) : Prop where
  steady : record.IsSteady
  apart : record.IsApart
  nodup : (record.fields.map Field.key).Nodup
  fields : List.Forall₂ (fun entry field => entry.1 = field.key ∧ field.Respects entry.2)
    known record.fields

variable {known : List (String × Likeness)}

theorem Knows.strange (knows : record.Knows known) {name : String} :
    record.field? name = none ↔ name ∉ known.map Prod.fst := by
  have keys : known.map Prod.fst = record.fields.map Field.key := by
    rw [← List.forall₂_eq_eq_eq, List.forall₂_map_left_iff, List.forall₂_map_right_iff]
    exact knows.fields.imp fun entry field both => both.1
  rw [keys]
  simp [field?]

theorem Knows.respects (knows : record.Knows known) {name : String} {like : Likeness}
    {field : Field α} (here : (name, like) ∈ known) (found : record.field? name = some field) :
    field.Respects like := by
  obtain ⟨mem, rfl⟩ := mem_of_field? found
  obtain ⟨i, inside, place⟩ := List.getElem_of_mem here
  have inside' : i < record.fields.length := knows.fields.length_eq ▸ inside
  have both := knows.fields.get inside inside'
  simp only [List.get_eq_getElem, place] at both
  rw [← List.inj_on_of_nodup_map knows.nodup (List.getElem_mem inside') mem both.1.symm]
  exact both.2

theorem Accepts.align (knows : record.Knows known) (aligned : Aligned d d' known entries entries')
    (accepts : record.Accepts d seen entries a b) : record.Accepts d' seen entries' a b := by
  induction aligned generalizing seen a with
  | nil => cases accepts; exact .nil
  | added named strange whole later ih =>
      exact .unknown named (knows.strange.mpr strange) whole (ih accepts)
  | removed named strange later ih =>
      cases accepts with
      | unknown named' strange' whole' later' => exact ih later'
      | known named' found fresh sets later' =>
          rw [named, Option.some.injEq] at named'
          rw [← named', knows.strange.mpr strange] at found
          cases found
  | setting here named named' alike later ih =>
      cases accepts with
      | unknown other strange whole later' =>
          rw [named, Option.some.injEq] at other
          exact absurd (List.mem_map_of_mem here) (other ▸ knows.strange.mp strange)
      | known other found fresh sets later' =>
          rw [named, Option.some.injEq] at other
          subst other
          exact .known named' found fresh (knows.respects here found alike sets) (ih later')

theorem respects_read (knows : record.Knows known) (default : α) :
    Respects (structLike known) (record.read default) := by
  rintro d d' path node node' x ⟨entries, entries', stands, stands', order, perm, aligned⟩ read
  obtain ⟨found, same, accepts⟩ := (read_ok_iff knows.steady).mp read
  rw [stands, Option.some.injEq] at same
  subst same
  exact ⟨path, (read_ok_iff knows.steady).mpr
    ⟨entries', stands', (accepts.perm knows.apart perm).align knows aligned⟩⟩

/-! ## One setting -/

/-- A field that holds what `read` makes of its value, and that no other field touches. -/
structure Tracks {β : Type} (record : Record α) (key : String) (read : Reader β) (get : α → β) :
    Prop where
  exists_field : (record.field? key).isSome
  own : ∀ {field}, record.field? key = some field → ∀ {d : Document} {v : Node} {a b : α},
    field.Sets d v a b → ∃ path, read d path v = .ok (get b)
  others : ∀ {name field}, record.field? name = some field → name ≠ key →
    ∀ {d : Document} {v : Node} {a b : α}, field.Sets d v a b → get b = get a

theorem Accepts.count_le (accepts : record.Accepts d seen entries a b) {key : String}
    (field : (record.field? key).isSome) :
    entries.countP (fun entry => keyName? d entry.1 = some key) ≤ if key ∈ seen then 0 else 1 := by
  induction accepts with
  | nil => simp
  | @unknown seen node value rest name a b named strange whole later ih =>
      have other : name ≠ key := by
        rintro rfl
        simp [strange] at field
      simpa [named, other] using ih
  | @known seen node value rest name f a next b named found fresh sets later ih =>
      by_cases same : name = key
      · subst same
        simpa [named, fresh] using ih
      · simpa [named, same, Ne.symm same] using ih

theorem Accepts.valueOf?_eq_none (accepts : record.Accepts d seen entries a b) {key : String}
    (field : (record.field? key).isSome) (taken : key ∈ seen) : valueOf? d key entries = none := by
  have none : entries.countP (fun entry => keyName? d entry.1 = some key) = 0 := by
    simpa [taken] using accepts.count_le field
  rw [List.countP_eq_zero] at none
  simpa [valueOf?] using none

theorem Accepts.get {β : Type} {key : String} {read : Reader β} {get : α → β}
    (tracks : record.Tracks key read get) (accepts : record.Accepts d seen entries a b) :
    match valueOf? d key entries with
    | none => get b = get a
    | some value => ∃ path, read d path value = .ok (get b) := by
  induction accepts with
  | nil => rfl
  | @unknown seen node value rest name a b named strange whole later ih =>
      have other : name ≠ key := by
        rintro rfl
        simpa [strange] using tracks.exists_field
      simpa [valueOf?, named, other] using ih
  | @known seen node value rest name f a next b named found fresh sets later ih =>
      by_cases same : name = key
      · subst same
        rw [later.valueOf?_eq_none tracks.exists_field (by simp)] at ih
        simpa [valueOf?, named, show get b = get next from ih] using tracks.own found sets
      · have kept := tracks.others found same sets
        rw [kept] at ih
        simpa [valueOf?, named, same] using ih

end Record

theorem Record.Tracks.of {α β : Type} {record : Record α} {key : String} {read : Reader β}
    {set : β → α → α} {get : α → β} (own : record.field? key = some (.of key read set))
    (gets : ∀ x a, get (set x a) = x)
    (others : ∀ field ∈ record.fields, field.key ≠ key → field.Keeps get) :
    record.Tracks key read get where
  exists_field := by rw [own]; rfl
  own found d v a b sets := by
    rw [own, Option.some.injEq] at found
    subst found
    obtain ⟨path, x, given, rfl⟩ := Field.of_sets.mp sets
    exact ⟨path, by rw [gets]; exact given⟩
  others found differ d v a b sets := by
    obtain ⟨mem, rfl⟩ := mem_of_field? found
    exact others _ mem differ sets

/-- What a struct became whose entries are these, if it has any place. -/
def Stands {α : Type} (record : Record α) (default : α) (d : Document)
    (entries : Option (List (Node × Node))) (a : α) : Prop :=
  match entries with
  | none => a = default
  | some entries => record.Accepts d [] entries default a

namespace Stands

variable {α β : Type} {record : Record α} {default a : α} {d : Document}
  {entries : Option (List (Node × Node))} {key : String} {get : α → β}

theorem setting {read : Reader β} (stands : Stands record default d entries a)
    (tracks : record.Tracks key read get) :
    match entries.bind (valueOf? d key) with
    | none => get a = get default
    | some value => ∃ path, read d path value = .ok (get a) := by
  cases entries with
  | none => exact congrArg get stands
  | some entries => exact Record.Accepts.get tracks stands

theorem struct {inner : Record β} {other : β} (stands : Stands record default d entries a)
    (steady : inner.IsSteady) (same : get default = other)
    (tracks : record.Tracks key (inner.read other) get) :
    Stands inner other d ((entries.bind (valueOf? d key)).bind (entries? d)) (get a) := by
  have here := stands.setting tracks
  cases found : entries.bind (valueOf? d key) with
  | none =>
      rw [found] at here
      exact here.trans same
  | some value =>
      rw [found] at here
      obtain ⟨path, given⟩ := here
      obtain ⟨below, known, accepts⟩ := (Record.read_ok_iff steady).mp given
      rw [Option.bind_some, known]
      exact accepts

end Stands

theorem Stands.count_le {α : Type} {record : Record α} {known : List (String × Likeness)}
    {default a : α} {d : Document} {entries : List (Node × Node)} {name : String}
    (stands : Stands record default d (some entries) a) (knows : record.Knows known)
    (mem : name ∈ known.map Prod.fst) :
    entries.countP (fun entry => keyName? d entry.1 = some name) ≤ 1 := by
  have accepts : record.Accepts d [] entries default a := stands
  refine accepts.count_le (Option.isSome_iff_ne_none.mpr fun unknown => ?_)
  exact knows.strange.mp unknown mem

end BackendLink.Config
