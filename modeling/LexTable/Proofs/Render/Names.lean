import LexTable.Kind
import Mathlib.Data.List.Nodup
import Mathlib.Data.List.Perm.Basic

/-!
# Names of kinds

Which kind a name denotes. A name is ambiguous if it is the last part of more than one kind, unless
it is also the whole name of a kind.
-/

namespace LexTable

namespace Kind

/-- The name denotes the kind and no other: it is the whole name of the kind or its last part, and
in that case no other kind has it for its last part. The name of the root may stand in front. -/
def Named (name : String) (kind : Kind) : Prop :=
  ∃ bare, (name = bare ∨ name = "Token." ++ bare) ∧
    (kind.dottedName = bare ∨
      kind.leafName = bare ∧ ∀ other : Kind, other.leafName = bare → other = kind)

theorem mem_all (kind : Kind) : kind ∈ all := by
  cases kind <;> decide

theorem nodup_all : all.Nodup := by
  decide

theorem dottedName_injective : Function.Injective dottedName := by
  intro kind other hname
  have hnodup : (all.map dottedName).Nodup := by decide
  exact List.inj_on_of_nodup_map hnodup (mem_all kind) (mem_all other) hname

/-- A kind whose whole name is a last part refines no other kind. -/
theorem leafName_eq_of_dottedName_eq {kind other : Kind}
    (hname : kind.dottedName = other.leafName) : kind.leafName = other.leafName := by
  have hall : ∀ kind ∈ all, ∀ other ∈ all, kind.dottedName = other.leafName →
      kind.leafName = other.leafName := by decide
  exact hall kind (mem_all kind) other (mem_all other) hname

/-- The root is not written in the names of kinds. -/
theorem not_startsWith_root (kind : Kind) : ¬ "Token.".toList <+: kind.dottedName.toList ∧
    ¬ "Token.".toList <+: kind.leafName.toList := by
  have hall : ∀ kind ∈ all, ¬ "Token.".toList <+: kind.dottedName.toList ∧
      ¬ "Token.".toList <+: kind.leafName.toList := by decide
  exact hall kind (mem_all kind)

/-- The kind with the whole name, else the only one with the last part. -/
def ofBare? (bare : String) : Option Kind :=
  match all.find? (·.dottedName == bare) with
  | some kind => some kind
  | none =>
    match all.filter (·.leafName == bare) with
    | [kind] => some kind
    | _ => none

theorem ofBare?_eq_some_iff {bare : String} {kind : Kind} :
    ofBare? bare = some kind ↔ kind.dottedName = bare ∨
      kind.leafName = bare ∧ ∀ other : Kind, other.leafName = bare → other = kind := by
  have hmem (other : Kind) :
      other ∈ all.filter (·.leafName == bare) ↔ other.leafName = bare := by
    simp [List.mem_filter, mem_all]
  unfold ofBare?
  split
  · next found hfind =>
    have hfound : found.dottedName = bare := by simpa using List.find?_some hfind
    rw [Option.some.injEq]
    constructor
    · rintro rfl
      exact .inl hfound
    · rintro (hdotted | ⟨hleaf, honly⟩)
      · exact dottedName_injective (hfound.trans hdotted.symm)
      · exact honly found ((leafName_eq_of_dottedName_eq (hfound.trans hleaf.symm)).trans hleaf)
  · next hnone =>
    have hdotted : kind.dottedName ≠ bare := by
      have hall := List.find?_eq_none.1 hnone kind (mem_all kind)
      simpa using hall
    split
    · next found hfilter =>
      rw [hfilter] at hmem
      simp only [List.mem_singleton] at hmem
      rw [Option.some.injEq]
      constructor
      · rintro rfl
        exact .inr ⟨(hmem found).1 rfl, fun other ↦ (hmem other).2⟩
      · rintro (hwhole | ⟨hleaf, -⟩)
        · exact absurd hwhole hdotted
        · exact ((hmem kind).2 hleaf).symm
    · next hother =>
      constructor
      · intro hnone
        cases hnone
      · rintro (hwhole | ⟨hleaf, honly⟩)
        · exact absurd hwhole hdotted
        · have hsingle : all.filter (·.leafName == bare) = [kind] := by
            apply List.perm_singleton.1
            rw [List.perm_ext_iff_of_nodup (nodup_all.filter _) (List.nodup_singleton kind)]
            intro other
            rw [hmem, List.mem_singleton]
            constructor
            · exact honly other
            · rintro rfl
              exact hleaf
          exact absurd hsingle (hother kind)

theorem ofName?_root (bare : String) : ofName? ("Token." ++ bare) = ofBare? bare := by
  unfold ofName?
  dsimp only
  rw [String.toList_append, if_pos (List.isPrefixOf_iff_prefix.2 (List.prefix_append _ _)),
    List.drop_left, String.ofList_toList]
  rfl

theorem ofName?_of_not_root {name : String} (hroot : ¬ "Token.".toList <+: name.toList) :
    ofName? name = ofBare? name := by
  unfold ofName?
  dsimp only
  rw [if_neg (mt List.isPrefixOf_iff_prefix.1 hroot)]
  rfl

theorem ofName?_eq_some_iff {name : String} {kind : Kind} :
    ofName? name = some kind ↔ Named name kind := by
  by_cases hroot : ∃ bare, name = "Token." ++ bare
  · obtain ⟨bare, rfl⟩ := hroot
    rw [ofName?_root, ofBare?_eq_some_iff]
    constructor
    · intro hkind
      exact ⟨bare, .inr rfl, hkind⟩
    · rintro ⟨other, hother | hother, hkind⟩
      · have hstart : "Token.".toList <+: other.toList := by
          rw [← hother, String.toList_append]
          exact List.prefix_append _ _
        rcases hkind with hdotted | ⟨hleaf, -⟩
        · exact absurd (hdotted ▸ hstart) (not_startsWith_root kind).1
        · exact absurd (hleaf ▸ hstart) (not_startsWith_root kind).2
      · rwa [(String.append_right_inj _).1 hother]
  · have hstart : ¬ "Token.".toList <+: name.toList := by
      rintro ⟨rest, hrest⟩
      apply hroot
      refine ⟨String.ofList rest, ?_⟩
      rw [← String.ofList_toList (s := name), ← hrest, String.ofList_append, String.ofList_toList]
    rw [ofName?_of_not_root hstart, ofBare?_eq_some_iff]
    constructor
    · intro hkind
      exact ⟨name, .inl rfl, hkind⟩
    · rintro ⟨bare, rfl | hbare, hkind⟩
      · exact hkind
      · exact absurd ⟨bare, hbare⟩ hroot

theorem ofName?_token_dottedName (kind : Kind) :
    ofName? ("Token." ++ kind.dottedName) = some kind :=
  ofName?_eq_some_iff.2 ⟨kind.dottedName, .inr rfl, .inl rfl⟩

end Kind

end LexTable
