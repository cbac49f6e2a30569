import Audience.Proofs.Settings.Guessing
import Audience.Proofs.Settings.Layers

/-!
# What variables give

A setting is given by the variable whose name stands for its place.  Whatever a variable holds, it
is no table, so it says something at its own place only.

**Results.**
* `Settings.key?_namedPlaces`: the key of each variable, with dots between the words of its place.
* `Settings.pathOf_namedPlaces`: such a key stands for the words of the place.
* `Settings.givesText_namedPlaces`: variables with different names give what they hold, each for
  its setting.
-/

namespace Audience

open Layer Text

namespace Settings

/-- Variables give a text for the setting at a place, or none. -/
def GivesText (bindings : List (String × String)) (place : List String) (text : Option String) :
    Prop :=
  SourceSays place (Environment.layer bindings) (text.map Environment.guess)

/-- Variables give a whole number in digits for the setting at a place, or none. -/
def GivesWhole (bindings : List (String × String)) (place : List String) (n : Option Nat) : Prop :=
  ∃ text : Option String, GivesText bindings place text ∧
    text.map (fun s => Entered.readUnsigned64 s.toList) = n.map some

variable {bindings : List (String × String)}

theorem GivesWhole.lt
    {place : List String} {given : Option Nat} (h : GivesWhole bindings place given) :
    ∀ n ∈ given, n < 2 ^ 64 := by
  obtain ⟨text, -, hwhole⟩ := h
  rintro n rfl
  obtain ⟨s, -, hread⟩ := Option.map_eq_some_iff.mp hwhole
  exact (Entered.isWhole_of_readUnsigned64 hread).2

/-- The names of the variables of the settings, with the places that they stand for. -/
def namedPlaces : List (String × List String) :=
  [("CAMPAIGN_EXPRESS__NODE_ID", ["node_id"]),
    ("CAMPAIGN_EXPRESS__SEGMENTATION__SCHEMA_PATH", ["segmentation", "schema_path"]),
    ("CAMPAIGN_EXPRESS__SEGMENTATION__PREVIEW_CHUNK_SIZE", ["segmentation", "preview_chunk_size"]),
    ("CAMPAIGN_EXPRESS__SEGMENTATION__HISTORY_DEPTH", ["segmentation", "history_depth"])]

/-- The key of a place, with dots between its words. -/
def dotted (place : List String) : String := ".".intercalate place

theorem key?_namedPlaces
    {v : String × List String} (hv : v ∈ namedPlaces) :
    Environment.key? v.1 = some (dotted v.2) := by
  have hascii : ∀ v ∈ namedPlaces, IsAscii v.1.toList := by
    decide +kernel
  rw [Environment.key?, lowercase_ascii (hascii v hv)]
  revert v
  decide +kernel

/-- A word of ASCII characters in small letters. -/
def IsSmall (word : String) : Prop :=
  IsAscii word.toList ∧ word.toList.map Char.toLower = word.toList

instance (word : String) : Decidable (IsSmall word) := inferInstanceAs (Decidable (_ ∧ _))

theorem lowerKey_of_isSmall
    {word : String} (h : IsSmall word) :
    lowerKey word = word := by
  rw [lowerKey, lowercase_ascii h.1, h.2, String.ofList_toList]

/-- A key that is a path of words in small letters stands for these words. -/
theorem pathOf_of_isSmall
    {key : String} {words : List String} (hpath : Path.ofKey key = words.map .key)
    (hsmall : ∀ word ∈ words, IsSmall word) :
    pathOf key = words.map .key := by
  rw [pathOf, hpath, List.map_map]
  exact List.map_congr_left fun word hword =>
    congrArg Path.Step.key (lowerKey_of_isSmall (hsmall word hword))

theorem pathOf_namedPlaces
    {v : String × List String} (hv : v ∈ namedPlaces) :
    pathOf (dotted v.2) = v.2.map .key := by
  have hpath : ∀ v ∈ namedPlaces, Path.ofKey (dotted v.2) = v.2.map .key := by
    decide +kernel
  have hsmall : ∀ v ∈ namedPlaces, ∀ word ∈ v.2, IsSmall word := by
    decide +kernel
  exact pathOf_of_isSmall (hpath v hv) (hsmall v hv)

/-- No place of a setting is on the way to the one of another. -/
theorem apart_namedPlaces :
    ∀ v ∈ namedPlaces, ∀ w ∈ namedPlaces, v = w ∨ v.1 ≠ w.1 ∧ ¬ v.2 <+: w.2 ∧ ¬ w.2 <+: v.2 := by
  decide +kernel

theorem ne_nil_namedPlaces :
    ∀ v ∈ namedPlaces, v.2 ≠ [] := by
  decide

theorem guess_ne_table (s : String) (members : Members) :
    Environment.guess s ≠ .table members := by
  unfold Environment.guess
  grind

/-- Variables with different names give what they hold, each for its setting. -/
theorem givesText_namedPlaces
    {bindings : List (String × String)} (hnames : ∀ b ∈ bindings, b.1 ∈ namedPlaces.map Prod.fst)
    (hnodup : (bindings.map Prod.fst).Nodup) {v : String × List String} (hv : v ∈ namedPlaces) :
    GivesText bindings v.2 (Keyed.find? v.1 bindings) := by
  induction bindings with
  | nil =>
      exact .nil
  | cons b rest ih =>
      obtain ⟨hname, hnames⟩ := List.forall_mem_cons.mp hnames
      obtain ⟨hfresh, hnodup⟩ := List.nodup_cons.mp hnodup
      obtain ⟨w, hw, hname⟩ := List.mem_map.mp hname
      have hpath := pathOf_namedPlaces hw
      have hkey := key?_namedPlaces hw
      rw [hname] at hkey
      have hlayer : Environment.layer (b :: rest) =
          (dotted w.2, Environment.guess b.2) :: Environment.layer rest := by
        simp only [Environment.layer, List.filterMap_cons, hkey, Option.map_some]
      have hrest := ih hnames hnodup
      unfold GivesText at hrest ⊢
      rw [hlayer, Keyed.find?_cons]
      rcases apart_namedPlaces v hv w hw with rfl | ⟨hne, hapart, hapart'⟩
      · rw [← hname] at hfresh
        rw [Keyed.find?_eq_none_iff.mpr hfresh] at hrest
        rw [if_pos hname]
        exact .speaks (hpath ▸ saysAt_self (guess_ne_table b.2) (ne_nil_namedPlaces v hv)) hrest
      · rw [if_neg (hname ▸ hne)]
        exact .silent (hpath ▸ saysAt_apart _ hapart' hapart) hrest

end Settings
end Audience
