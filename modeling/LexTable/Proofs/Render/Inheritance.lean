import LexTable.Render.Theme
import Mathlib.Data.List.Nodup

/-!
# Inherited styles

A kind is shown in the style of the nearest kind above it, itself included, that has one of its own.
So a setting reaches the kinds that refine the one it is made for, as far as no style between the
two hides it, and to take a style away is to show the one above it again.
-/

namespace LexTable

namespace Kind

variable {kind parent ancestor : Kind} {below above : List Kind}

theorem lineage_of_parent?_eq_none (hroot : kind.parent? = none) : kind.lineage = [kind] := by
  rw [lineage, hroot]
  rfl

theorem lineage_of_parent?_eq_some (hparent : kind.parent? = some parent) :
    kind.lineage = kind :: parent.lineage := by
  rw [lineage_of_parent?_eq_none (parent?_of_parent?_eq_some hparent), lineage, hparent]
  rfl

theorem nodup_lineage (kind : Kind) : kind.lineage.Nodup := by
  cases hparent : kind.parent? with
  | none =>
    rw [lineage_of_parent?_eq_none hparent]
    exact List.nodup_singleton kind
  | some parent =>
    have hroot : parent.parent? = none := parent?_of_parent?_eq_some hparent
    have hne : kind ≠ parent := by
      rintro rfl
      exact Option.some_ne_none kind (hparent.symm.trans hroot)
    rw [lineage_of_parent?_eq_some hparent, lineage_of_parent?_eq_none hroot]
    simpa using hne

/-- From the kind one gets up to `ancestor`, and passes the kinds `below` on the way. -/
inductive Climbs : Kind → List Kind → Kind → Prop
  | here (kind : Kind) : Climbs kind [] kind
  | up {kind parent ancestor : Kind} {below : List Kind} (hparent : kind.parent? = some parent)
      (hrest : Climbs parent below ancestor) : Climbs kind (kind :: below) ancestor

theorem Climbs.lineage_eq (hclimbs : kind.Climbs below ancestor) :
    kind.lineage = below ++ ancestor.lineage := by
  induction hclimbs with
  | here kind => rfl
  | up hparent _ ih => rw [lineage_of_parent?_eq_some hparent, ih, List.cons_append]

theorem climbs_of_lineage_eq (hlineage : kind.lineage = below ++ ancestor :: above) :
    kind.Climbs below ancestor := by
  induction below generalizing kind with
  | nil =>
    obtain ⟨rfl, -⟩ := List.cons.inj hlineage
    exact .here kind
  | cons lower below ih =>
    obtain ⟨rfl, hrest⟩ := List.cons.inj hlineage
    cases hparent : kind.parent? with
    | none => simp [hparent] at hrest
    | some parent =>
      rw [lineage_of_parent?_eq_some hparent, List.cons_append] at hlineage
      exact .up hparent (ih (List.cons.inj hlineage).2)

theorem isA_iff_exists_climbs : kind.isA ancestor ↔ ∃ below, kind.Climbs below ancestor := by
  rw [isA, List.contains_iff_mem]
  constructor
  · intro hmem
    obtain ⟨below, above, hlineage⟩ := List.append_of_mem hmem
    exact ⟨below, climbs_of_lineage_eq hlineage⟩
  · rintro ⟨below, hclimbs⟩
    rw [hclimbs.lineage_eq]
    exact List.mem_append_right below List.mem_cons_self

theorem Climbs.not_mem (hclimbs : kind.Climbs below ancestor) : ancestor ∉ below := by
  have hnodup := nodup_lineage kind
  rw [hclimbs.lineage_eq, List.nodup_append] at hnodup
  intro hmem
  exact hnodup.2.2 ancestor hmem ancestor List.mem_cons_self rfl

theorem not_isA_of_parent?_eq_some (hparent : kind.parent? = some parent) : ¬ parent.isA kind := by
  have hnodup := nodup_lineage kind
  rw [lineage_of_parent?_eq_some hparent, List.nodup_cons] at hnodup
  rw [isA, List.contains_iff_mem]
  exact hnodup.1

end Kind

namespace Theme

variable {theme : Theme} {kind ancestor changed : Kind} {style : String}

/-- The kind is or refines `ancestor`, and no kind below that one on the way up has a style of its
own. -/
def Exposes (theme : Theme) (kind ancestor : Kind) : Prop :=
  ∃ below, kind.Climbs below ancestor ∧ ∀ lower ∈ below, theme.own lower = none

theorem Exposes.isA (hexposes : theme.Exposes kind ancestor) : kind.isA ancestor := by
  obtain ⟨below, hclimbs, -⟩ := hexposes
  exact Kind.isA_iff_exists_climbs.2 ⟨below, hclimbs⟩

theorem style?_eq_some_iff : theme.style? kind = some style ↔
    ∃ ancestor, theme.Exposes kind ancestor ∧ theme.own ancestor = some style := by
  rw [style?, List.findSome?_eq_some_iff]
  constructor
  · rintro ⟨below, ancestor, above, hlineage, hown, hbelow⟩
    exact ⟨ancestor, ⟨below, Kind.climbs_of_lineage_eq hlineage, hbelow⟩, hown⟩
  · rintro ⟨ancestor, ⟨below, hclimbs, hbelow⟩, hown⟩
    exact ⟨below, ancestor, ancestor.parent?.toList, hclimbs.lineage_eq, hown, hbelow⟩

theorem style?_eq_none_iff : theme.style? kind = none ↔
    ∀ ancestor, kind.isA ancestor → theme.own ancestor = none := by
  simp only [style?, List.findSome?_eq_none_iff, Kind.isA, List.contains_iff_mem]

/-- The style of its own, or else that of the kind it refines. -/
theorem style?_eq_or (theme : Theme) (kind : Kind) :
    theme.style? kind = (theme.own kind).or (kind.parent?.bind theme.style?) := by
  cases hparent : kind.parent? with
  | none =>
    rw [style?, Kind.lineage_of_parent?_eq_none hparent, List.findSome?_singleton]
    exact Option.or_none.symm
  | some parent =>
    rw [style?, Kind.lineage_of_parent?_eq_some hparent, List.findSome?_cons]
    cases theme.own kind with
    | none => rfl
    | some style => rfl

theorem Exposes.style?_eq (hexposes : theme.Exposes kind ancestor) :
    theme.style? kind = theme.style? ancestor := by
  obtain ⟨below, hclimbs, hbelow⟩ := hexposes
  rw [style?, hclimbs.lineage_eq, List.findSome?_append, List.findSome?_eq_none_iff.2 hbelow]
  rfl

/-! ## One setting -/

theorem own_set_self (theme : Theme) (kind : Kind) (style : String) :
    (theme.set kind style).own kind = if style = "" then none else some style :=
  if_pos rfl

theorem own_set_of_ne (hne : kind ≠ changed) (theme : Theme) (style : String) :
    (theme.set changed style).own kind = theme.own kind :=
  if_neg hne

theorem findSome?_own_set {kinds : List Kind} (hkinds : changed ∉ kinds) (theme : Theme)
    (style : String) :
    kinds.findSome? (theme.set changed style).own = kinds.findSome? theme.own := by
  induction kinds with
  | nil => rfl
  | cons kind kinds ih =>
    rw [List.mem_cons, not_or] at hkinds
    rw [List.findSome?_cons, List.findSome?_cons, own_set_of_ne (Ne.symm hkinds.1), ih hkinds.2]

theorem style?_set_of_not_isA (hisA : ¬ kind.isA changed) (theme : Theme) (style : String) :
    (theme.set changed style).style? kind = theme.style? kind := by
  rw [Kind.isA, List.contains_iff_mem] at hisA
  exact findSome?_own_set hisA theme style

/-- Styles above the kind of a setting stay as they are. -/
theorem bind_style?_set (theme : Theme) (changed : Kind) (style : String) :
    changed.parent?.bind (theme.set changed style).style? = changed.parent?.bind theme.style? := by
  cases hparent : changed.parent? with
  | none => rfl
  | some parent =>
    exact style?_set_of_not_isA (Kind.not_isA_of_parent?_eq_some hparent) theme style

theorem Exposes.set (hexposes : theme.Exposes kind changed) (style : String) :
    (theme.set changed style).Exposes kind changed := by
  obtain ⟨below, hclimbs, hbelow⟩ := hexposes
  refine ⟨below, hclimbs, fun lower hlower ↦ ?_⟩
  rw [own_set_of_ne (ne_of_mem_of_not_mem hlower hclimbs.not_mem)]
  exact hbelow lower hlower

theorem style?_set_of_exposes (hexposes : theme.Exposes kind changed) (style : String) :
    (theme.set changed style).style? kind =
      if style = "" then changed.parent?.bind theme.style? else some style := by
  calc
    (theme.set changed style).style? kind = (theme.set changed style).style? changed :=
      (hexposes.set style).style?_eq
    _ = ((theme.set changed style).own changed).or
          (changed.parent?.bind (theme.set changed style).style?) :=
      style?_eq_or _ changed
    _ = (if style = "" then none else some style).or (changed.parent?.bind theme.style?) := by
      rw [own_set_self, bind_style?_set]
    _ = if style = "" then changed.parent?.bind theme.style? else some style := by
      split <;> rfl

theorem style?_set_of_not_exposes (hexposes : ¬ theme.Exposes kind changed) (style : String) :
    (theme.set changed style).style? kind = theme.style? kind := by
  by_cases hisA : kind.isA changed
  · obtain ⟨below, hclimbs⟩ := Kind.isA_iff_exists_climbs.1 hisA
    -- A kind below `changed` hides it, and the setting leaves the styles of these kinds alone.
    have hhidden : below.findSome? theme.own ≠ none := by
      intro hnone
      exact hexposes ⟨below, hclimbs, List.findSome?_eq_none_iff.1 hnone⟩
    obtain ⟨found, hfound⟩ := Option.ne_none_iff_exists'.1 hhidden
    rw [style?, style?, hclimbs.lineage_eq, List.findSome?_append, List.findSome?_append,
      findSome?_own_set hclimbs.not_mem, hfound]
    rfl
  · exact style?_set_of_not_isA hisA theme style

theorem set_comm {first second : Kind} (hne : first ≠ second) (theme : Theme)
    (style other : String) :
    (theme.set first style).set second other = (theme.set second other).set first style := by
  refine congrArg Theme.mk (funext fun kind ↦ ?_)
  by_cases hfirst : kind = first
  · subst hfirst
    rw [if_neg hne, own_set_self, if_pos rfl]
  · rw [if_neg hfirst, own_set_of_ne hfirst]
    rfl

/-! ## Settings in a row -/

theorem setAll_append (theme : Theme) (settings others : List (Kind × String)) :
    theme.setAll (settings ++ others) = (theme.setAll settings).setAll others :=
  List.foldl_append

theorem setAll_swap {first second : Kind × String} (hne : first.1 ≠ second.1) (theme : Theme)
    (before after : List (Kind × String)) :
    theme.setAll (before ++ first :: second :: after) =
      theme.setAll (before ++ second :: first :: after) := by
  rw [setAll_append, setAll_append]
  exact congrArg (setAll · after) (set_comm hne _ first.2 second.2)

/-- The own style that settings give to a kind which had `base`: the last setting for the kind
decides, and an empty one takes the style away. -/
inductive Settles (base : Option String) (kind : Kind) :
    List (Kind × String) → Option String → Prop
  | unnamed {settings : List (Kind × String)} (hsettings : ∀ setting ∈ settings, setting.1 ≠ kind) :
      Settles base kind settings base
  | given {before after : List (Kind × String)} {style : String} (hstyle : style ≠ "")
      (hafter : ∀ setting ∈ after, setting.1 ≠ kind) :
      Settles base kind (before ++ (kind, style) :: after) (some style)
  | removed {before after : List (Kind × String)} (hafter : ∀ setting ∈ after, setting.1 ≠ kind) :
      Settles base kind (before ++ (kind, "") :: after) none

theorem own_setAll_of_forall_ne {settings : List (Kind × String)}
    (hsettings : ∀ setting ∈ settings, setting.1 ≠ kind) (theme : Theme) :
    (theme.setAll settings).own kind = theme.own kind := by
  induction settings generalizing theme with
  | nil => rfl
  | cons setting settings ih =>
    rw [List.forall_mem_cons] at hsettings
    calc
      (theme.setAll (setting :: settings)).own kind = (theme.set setting.1 setting.2).own kind :=
        ih hsettings.2 _
      _ = theme.own kind := own_set_of_ne hsettings.1.symm theme setting.2

theorem own_setAll_of_last {after : List (Kind × String)}
    (hafter : ∀ setting ∈ after, setting.1 ≠ kind) (theme : Theme) (before : List (Kind × String))
    (style : String) :
    (theme.setAll (before ++ (kind, style) :: after)).own kind =
      if style = "" then none else some style := by
  rw [setAll_append]
  exact (own_setAll_of_forall_ne hafter _).trans (own_set_self _ kind style)

/-- Either no setting is for the kind, or there is a last one. -/
theorem forall_ne_or_exists_last (settings : List (Kind × String)) (kind : Kind) :
    (∀ setting ∈ settings, setting.1 ≠ kind) ∨ ∃ before style after,
      settings = before ++ (kind, style) :: after ∧ ∀ setting ∈ after, setting.1 ≠ kind := by
  induction settings with
  | nil => exact .inl (by simp)
  | cons setting settings ih =>
    rcases ih with hsettings | ⟨before, style, after, rfl, hafter⟩
    · by_cases hkind : setting.1 = kind
      · subst hkind
        exact .inr ⟨[], setting.2, settings, rfl, hsettings⟩
      · exact .inl (List.forall_mem_cons.2 ⟨hkind, hsettings⟩)
    · exact .inr ⟨setting :: before, style, after, rfl, hafter⟩

theorem own_setAll_eq_iff {settings : List (Kind × String)} {own : Option String} :
    (theme.setAll settings).own kind = own ↔ Settles (theme.own kind) kind settings own := by
  constructor
  · rintro rfl
    rcases forall_ne_or_exists_last settings kind with
      hsettings | ⟨before, style, after, rfl, hafter⟩
    · rw [own_setAll_of_forall_ne hsettings]
      exact .unnamed hsettings
    · rw [own_setAll_of_last hafter]
      split
      · next hempty =>
        subst hempty
        exact .removed hafter
      · next hstyle => exact .given hstyle hafter
  · intro hsettles
    cases hsettles with
    | unnamed hsettings => exact own_setAll_of_forall_ne hsettings theme
    | given hstyle hafter => rw [own_setAll_of_last hafter, if_neg hstyle]
    | removed hafter => exact own_setAll_of_last hafter theme _ ""

/-- After any settings the own style of a kind is what the last of them for the kind says, and a
kind is shown in the nearest style above it. One more setting is seen only on kinds from which no
style hides it: they take the new style, or the one above if the style is taken away. Settings for
different kinds can change places. -/
theorem nearest_style_after_settings (theme : Theme) (settings : List (Kind × String)) :
    let adjusted := theme.setAll settings
    (∀ kind own, adjusted.own kind = own ↔ Settles (theme.own kind) kind settings own) ∧
    (∀ kind style, adjusted.style? kind = some style ↔
      ∃ ancestor, adjusted.Exposes kind ancestor ∧ adjusted.own ancestor = some style) ∧
    (∀ kind, adjusted.style? kind = none ↔
      ∀ below ancestor, kind.Climbs below ancestor → adjusted.own ancestor = none) ∧
    (∀ changed style kind,
      (adjusted.set changed style).style? kind ≠ adjusted.style? kind →
        kind.isA changed ∧ adjusted.Exposes kind changed) ∧
    (∀ changed style kind, adjusted.Exposes kind changed →
      (adjusted.set changed style).style? kind =
        if style = "" then changed.parent?.bind adjusted.style? else some style) ∧
    ∀ before first second after, settings = before ++ first :: second :: after →
      first.1 ≠ second.1 → adjusted = theme.setAll (before ++ second :: first :: after) := by
  intro adjusted
  refine ⟨fun kind own ↦ own_setAll_eq_iff, fun kind style ↦ style?_eq_some_iff, ?_, ?_, ?_, ?_⟩
  · intro kind
    rw [style?_eq_none_iff]
    constructor
    · intro hnone below ancestor hclimbs
      exact hnone ancestor (Kind.isA_iff_exists_climbs.2 ⟨below, hclimbs⟩)
    · intro hnone ancestor hisA
      obtain ⟨below, hclimbs⟩ := Kind.isA_iff_exists_climbs.1 hisA
      exact hnone below ancestor hclimbs
  · intro changed style kind hchanged
    have hexposes : adjusted.Exposes kind changed := by
      by_contra hhidden
      exact hchanged (style?_set_of_not_exposes hhidden style)
    exact ⟨hexposes.isA, hexposes⟩
  · intro changed style kind hexposes
    exact style?_set_of_exposes hexposes style
  · rintro before first second after rfl hne
    exact setAll_swap hne theme before after

/-- A style that is taken away shows the one above it, and nothing is shown when that one goes. -/
theorem nearest_style_after_settings_removed :
    let adjusted := standard.setAll [(.stringDouble, "1"), (.string, "2"), (.stringDouble, "")]
    adjusted.style? .stringDouble = some "2" ∧
    (adjusted.set .string "").style? .stringDouble ≠ adjusted.style? .stringDouble ∧
    adjusted.Exposes .stringDouble .string ∧
    (adjusted.set .string "").style? .stringDouble = none ∧
    Kind.stringDouble ≠ Kind.string ∧
    adjusted = standard.setAll [(.string, "2"), (.stringDouble, "1"), (.stringDouble, "")] := by
  intro adjusted
  obtain ⟨-, hshown, -, hchange, heffect, hswap⟩ := nearest_style_after_settings standard
    [(.stringDouble, "1"), (.string, "2"), (.stringDouble, "")]
  have hchanged :
      (adjusted.set .string "").style? .stringDouble ≠ adjusted.style? .stringDouble := by
    decide
  have hexposes : adjusted.Exposes .stringDouble .string :=
    (hchange .string "" .stringDouble hchanged).2
  have hne : Kind.stringDouble ≠ Kind.string := by decide
  refine ⟨(hshown .stringDouble "2").2 ⟨.string, hexposes, rfl⟩, hchanged, hexposes, ?_, hne, ?_⟩
  · exact heffect .string "" .stringDouble hexposes
  · exact hswap [] (.stringDouble, "1") (.string, "2") [(.stringDouble, "")] rfl hne

end Theme

end LexTable
