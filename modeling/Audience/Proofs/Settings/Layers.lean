import Audience.Settings.Layer

/-!
# What a layer says at a place

A place of the settings is named by the words on the way to it.  A source may say something at a
place in several ways: by a key that is a path, by a table, or by both.  Laying the source over a
layer, the value that it says there replaces the one of the layer, and if it says nothing there,
the value of the layer stays.

**Clear sources.**  `Says` and its like hold if a source says at most one value at a place, and
nothing that hides the place: no list and no other value on the way to it, and no table at it.
Otherwise the result depends on the order in which the source gives its keys.

**Results.**
* `Layer.updates_assign`, `Layer.updates_assignAt`: what putting one value changes at a place.
* `Layer.updates_lay`: what laying a source over a layer changes at a place.
* `Layer.look_lay_lay`: what is at a place after laying one source over another.
-/

namespace Audience
namespace Layer

/-- The value at a place below a value. -/
def look : List String → Setting → Option Setting
  | [], s => some s
  | word :: place, s => (Keyed.find? word s.members).bind (look place)

theorem look_word (word : String) (members : Members) :
    look [word] (.table members) = Keyed.find? word members :=
  Option.bind_fun_some _

/-- On the way to a place below a value there are only tables, as far as there is anything. -/
def Open : List String → Setting → Prop
  | [], _ => True
  | word :: place, s =>
      (∃ members, s = .table members) ∧ ∀ v ∈ Keyed.find? word s.members, Open place v

/-- A value that is put somewhere says a value, or nothing, at a place below it. -/
inductive Says : Setting → List String → Option Setting → Prop
  | leaf {v : Setting} :
      (∀ members, v ≠ .table members) →
      Says v [] (some v)
  | absent {members : Members} {word : String} {place : List String} :
      (∀ m ∈ members, lowerKey m.1 ≠ word) →
      Says (.table members) (word :: place) none
  | member {front back : Members} {key word : String} {v : Setting} {place : List String}
      {said : Option Setting} :
      lowerKey key = word →
      (∀ m ∈ front ++ back, lowerKey m.1 ≠ word) →
      Says v place said →
      Says (.table (front ++ (key, v) :: back)) (word :: place) said

/-- A value that is put at a path says a value, or nothing, at a place. -/
inductive SaysAt (v : Setting) : List Path.Step → List String → Option Setting → Prop
  | last {word : String} {place : List String} {said : Option Setting} :
      Says v place said →
      SaysAt v [.key word] (word :: place) said
  | into {word : String} {path : List Path.Step} {place : List String} {said : Option Setting} :
      SaysAt v path place said →
      SaysAt v (.key word :: path) (word :: place) said
  | aside {other word : String} {path : List Path.Step} {place : List String} :
      other ≠ word →
      SaysAt v (.key other :: path) (word :: place) none

section Words

variable {v : Setting} {place other : List String}

/-- A value that is put at a place says itself there. -/
theorem saysAt_self
    (hleaf : ∀ members, v ≠ .table members) (hne : place ≠ []) :
    SaysAt v (place.map .key) place (some v) := by
  induction place with
  | nil =>
      exact absurd rfl hne
  | cons word rest ih =>
      cases rest with
      | nil => exact .last (.leaf hleaf)
      | cons next more => exact .into (ih (List.cons_ne_nil next more))

/-- A value that is put at a place says nothing at another one, if neither is on the way to the
other. -/
theorem saysAt_apart
    (v : Setting) (h : ¬ other <+: place) (h' : ¬ place <+: other) :
    SaysAt v (other.map .key) place none := by
  induction other generalizing place with
  | nil =>
      exact absurd List.nil_prefix h
  | cons first rest ih =>
      cases place with
      | nil =>
          exact absurd List.nil_prefix h'
      | cons word place =>
          by_cases hword : first = word
          · subst hword
            rw [List.cons_prefix_cons, not_and] at h h'
            exact .into (ih (h rfl) (h' rfl))
          · exact .aside hword

end Words

/-- The path that a key of a source stands for. -/
def pathOf (key : String) : List Path.Step := (Path.ofKey key).map lowerStep

/-- A source says a value, or nothing, at a place. -/
inductive SourceSays (place : List String) : Members → Option Setting → Prop
  | nil :
      SourceSays place [] none
  | silent {key : String} {v : Setting} {rest : Members} {said : Option Setting} :
      SaysAt v (pathOf key) place none →
      SourceSays place rest said →
      SourceSays place ((key, v) :: rest) said
  | speaks {key : String} {v : Setting} {rest : Members} {value : Setting} :
      SaysAt v (pathOf key) place (some value) →
      SourceSays place rest none →
      SourceSays place ((key, v) :: rest) (some value)

/-- What was at the first word of a place, if anything, was replaced: at the rest of the place is
what was said there or else what was there before. -/
structure Updates (place : List String) (said before after : Option Setting) : Prop where
  look : after.bind (look place) = said.or (before.bind (look place))
  isOpen : ∀ v ∈ after, Open place v

section Assign

variable {word key : String} {place : List String} {members : Members} {v : Setting}
  {said : Option Setting}

theorem assign_leaf
    (h : ∀ entries, v ≠ .table entries) (key : String) (members : Members) :
    assign key v members = Keyed.insert key v members := by
  cases v with
  | table entries => exact absurd rfl (h entries)
  | nothing | boolean | integer | real | text | list => rw [assign]

theorem assign_table
    {entries : Members} (h : entries ≠ []) (key : String) (members : Members) :
    assign key (.table entries) members =
      Keyed.insert key (.table (assignAll entries (innerTable key members))) members := by
  cases entries with
  | nil => exact absurd rfl h
  | cons => rw [assign]

/-- A value is put at its key and nowhere else. -/
theorem find?_assign_of_ne
    (h : word ≠ key) (v : Setting) (members : Members) :
    Keyed.find? word (assign key v members) = Keyed.find? word members := by
  by_cases htable : ∃ entries, v = .table entries
  · obtain ⟨entries, rfl⟩ := htable
    cases entries with
    | nil =>
        rw [assign]
        split
        · rfl
        · exact Keyed.find?_insert_of_ne h _ _
    | cons =>
        rw [assign]
        exact Keyed.find?_insert_of_ne h _ _
  · rw [assign_leaf (not_exists.mp htable)]
    exact Keyed.find?_insert_of_ne h _ _

theorem find?_assignAll_of_ne
    {entries : Members} (h : ∀ m ∈ entries, lowerKey m.1 ≠ word) (members : Members) :
    Keyed.find? word (assignAll entries members) = Keyed.find? word members := by
  induction entries generalizing members with
  | nil =>
      rw [assignAll]
  | cons m rest ih =>
      obtain ⟨hm, hrest⟩ := List.forall_mem_cons.mp h
      rw [assignAll, ih hrest, find?_assign_of_ne hm.symm]

theorem assignAll_append
    (front back members : Members) :
    assignAll (front ++ back) members = assignAll back (assignAll front members) := by
  induction front generalizing members with
  | nil =>
      rw [List.nil_append, assignAll]
  | cons m rest ih =>
      rw [List.cons_append, assignAll, assignAll, ih]

theorem Updates.refl
    {slot : Option Setting} (hopen : ∀ s ∈ slot, Open place s) :
    Updates place none slot slot :=
  ⟨rfl, hopen⟩

theorem Updates.trans
    {before between after : Option Setting} {earlier later : Option Setting}
    (h : Updates place earlier before between) (h' : Updates place later between after) :
    Updates place (later.or earlier) before after := by
  refine ⟨?_, h'.isOpen⟩
  rw [h'.look, h.look, Option.or_assoc]

theorem open_nothing :
    ∀ v ∈ Keyed.find? word ([] : Members), Open place v := fun v hv =>
  absurd hv (Option.not_mem_none v)

theorem open_innerTable
    (hopen : ∀ s ∈ Keyed.find? key members, Open (word :: place) s) :
    ∀ s ∈ Keyed.find? word (innerTable key members), Open place s := by
  unfold innerTable
  cases hslot : Keyed.find? key members with
  | none =>
      exact nofun
  | some s =>
      exact (hopen s hslot).2

/-- What changes in the table at a key is a change below the key. -/
theorem Updates.under
    {changed : Members}
    (h : Updates place said (Keyed.find? word (innerTable key members))
      (Keyed.find? word changed)) :
    Updates (word :: place) said (Keyed.find? key members) (some (.table changed)) := by
  have hinner : (Keyed.find? word (innerTable key members)).bind (Layer.look place) =
      (Keyed.find? key members).bind (Layer.look (word :: place)) := by
    unfold innerTable
    cases Keyed.find? key members <;> rfl
  refine ⟨?_, ?_⟩
  · rw [← hinner, ← h.look]
    rfl
  · rintro _ ⟨⟩
    exact ⟨⟨changed, rfl⟩, h.isOpen⟩

/-- Putting a value at a key changes the places below the key as the value says. -/
theorem updates_assign
    (hsaid : Says v place said) (hopen : ∀ s ∈ Keyed.find? key members, Open place s) :
    Updates place said (Keyed.find? key members) (Keyed.find? key (assign key v members)) := by
  induction hsaid generalizing key members with
  | @leaf v hleaf =>
      rw [assign_leaf hleaf, Keyed.find?_insert_self]
      exact ⟨rfl, fun _ _ => trivial⟩
  | @absent entries word place habsent =>
      by_cases hempty : entries = []
      · -- An empty table is put only where nothing is.
        subst hempty
        rw [assign]
        split
        · exact .refl hopen
        · next hnone =>
            rw [Keyed.find?_insert_self, Option.not_isSome_iff_eq_none.mp hnone]
            refine ⟨rfl, ?_⟩
            rintro _ ⟨⟩
            exact ⟨⟨[], rfl⟩, open_nothing⟩
      · rw [assign_table hempty, Keyed.find?_insert_self]
        apply Updates.under
        rw [find?_assignAll_of_ne habsent]
        exact .refl (open_innerTable hopen)
  | @member front back inner word v place said hword hother hsaid ih =>
      have hfront : ∀ m ∈ front, lowerKey m.1 ≠ word := fun m hm =>
        hother m (List.mem_append_left back hm)
      have hback : ∀ m ∈ back, lowerKey m.1 ≠ word := fun m hm =>
        hother m (List.mem_append_right front hm)
      rw [assign_table (by simp), Keyed.find?_insert_self, assignAll_append, assignAll, hword]
      apply Updates.under
      rw [find?_assignAll_of_ne hback, ← find?_assignAll_of_ne hfront (innerTable key members)]
      apply ih
      rw [find?_assignAll_of_ne hfront]
      exact open_innerTable hopen

theorem SaysAt.exists_key
    {path : List Path.Step} (h : SaysAt v path place said) :
    ∃ word rest, path = .key word :: rest := by
  cases h <;> exact ⟨_, _, rfl⟩

/-- What is put at a path makes a table, and in it only the first word of the path is changed. -/
theorem assignAt_key
    (v : Setting) (other : String) (rest : List Path.Step) (s : Setting) :
    ∃ changed, assignAt v (.key other :: rest) s = .table changed ∧
      ∀ word, word ≠ other → Keyed.find? word changed = Keyed.find? word s.members := by
  cases rest with
  | nil =>
      exact ⟨_, rfl, fun _ hne => find?_assign_of_ne hne v s.members⟩
  | cons next more =>
      exact ⟨_, rfl, fun _ hne => Keyed.find?_insert_of_ne hne _ s.members⟩

/-- Putting a value at a path changes a place as the value says. -/
theorem updates_assignAt
    {path : List Path.Step} (hsaid : SaysAt v path (word :: place) said) {s : Setting}
    (hopen : ∀ t ∈ Keyed.find? word s.members, Open place t) :
    Updates place said (Keyed.find? word s.members)
      (Keyed.find? word (assignAt v path s).members) := by
  induction path generalizing word place s with
  | nil =>
      cases hsaid
  | cons step rest ih =>
      cases hsaid with
      | last hvalue =>
          exact updates_assign hvalue hopen
      | aside hne =>
          obtain ⟨changed, hchanged, hsame⟩ := assignAt_key v _ rest s
          rw [hchanged, Setting.members_table, hsame word hne.symm]
          exact .refl hopen
      | into hrest =>
          obtain ⟨next, more, rfl⟩ := hrest.exists_key
          cases place with
          | nil =>
              cases hrest
          | cons word' place =>
              obtain ⟨changed, hchanged, _⟩ :=
                assignAt_key v next more ((Keyed.find? word s.members).getD .nothing)
              have hbelow := ih hrest (open_innerTable hopen)
              rw [hchanged] at hbelow
              rw [assignAt, hchanged, Setting.members_table, Keyed.find?_insert_self]
              exact hbelow.under

end Assign

theorem lay_cons (key : String) (v : Setting) (rest members : Members) :
    lay ((key, v) :: rest) members =
      lay rest (assignAt v (pathOf key) (.table members)).members := rfl

/-- Laying a source over a layer changes a place as the source says. -/
theorem updates_lay
    {word : String} {place : List String} {source : Members} {said : Option Setting}
    (hsaid : SourceSays (word :: place) source said) {members : Members}
    (hopen : ∀ s ∈ Keyed.find? word members, Open place s) :
    Updates place said (Keyed.find? word members) (Keyed.find? word (lay source members)) := by
  induction hsaid generalizing members with
  | nil =>
      exact .refl hopen
  | @silent key v rest said hfirst _ ih =>
      have hstep := updates_assignAt hfirst (s := .table members) hopen
      have hboth := hstep.trans (ih hstep.isOpen)
      rwa [Option.or_none, ← lay_cons] at hboth
  | @speaks key v rest value hfirst _ ih =>
      have hstep := updates_assignAt hfirst (s := .table members) hopen
      have hboth := hstep.trans (ih hstep.isOpen)
      rwa [Option.none_or, ← lay_cons] at hboth

section Laying

variable {upper lower : Members} {word : String} {place : List String} {high low : Option Setting}

/-- Of two sources, the upper one decides at a place if it says something there. -/
theorem updates_lay_lay
    (hupper : SourceSays (word :: place) upper high)
    (hlower : SourceSays (word :: place) lower low) :
    Updates place (high.or low) none (Keyed.find? word (lay upper (lay lower []))) := by
  have hfirst := updates_lay hlower open_nothing
  exact hfirst.trans (updates_lay hupper hfirst.isOpen)

theorem look_lay_lay
    (hupper : SourceSays (word :: place) upper high)
    (hlower : SourceSays (word :: place) lower low) :
    look (word :: place) (.table (lay upper (lay lower []))) = high.or low := by
  have hlook := (updates_lay_lay hupper hlower).look
  rwa [Option.bind_none, Option.or_none] at hlook

end Laying

end Layer
end Audience
