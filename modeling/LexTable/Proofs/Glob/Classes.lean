import LexTable.Proofs.Glob.Reading
import LexTable.Proofs.Pattern.Classes
import Mathlib.Data.List.Chain
import Mathlib.Data.List.TakeWhile

/-!
# Brackets as classes

What stands between the brackets of a file name pattern is written into a class of a regular
expression, and is read there as the members that a shell sees. Two dashes in a row are left out: in
a class they take one set from another.
-/

namespace LexTable

namespace Glob

open Pattern

/-- A character that is written into a class is read as that character, escaped or not. -/
theorem exists_member_eq (c : Char) : ∃ d ds, member c = d :: ds ∧
    (∀ rest, classAtom d (ds ++ rest) = .ok (.literal c, ds.length + 1)) ∧
    d ∉ ['[', ']', '&', '~'] ∧ (d = '-' ↔ c = '-') ∧ (d = '^' ↔ c = '^') := by
  by_cases hc : "\\[]&~".toList.contains c
  · refine ⟨'\\', [c], if_pos hc, ?_, by decide, ?_⟩
    all_goals
      have hcases : c = '\\' ∨ c = '[' ∨ c = ']' ∨ c = '&' ∨ c = '~' := by simpa using hc
      rcases hcases with rfl | rfl | rfl | rfl | rfl
    all_goals first | decide | exact fun rest ↦ rfl
  · refine ⟨c, [], if_neg hc, ?_, ?_, Iff.rfl, Iff.rfl⟩
    · intro rest
      have hplain : c ≠ '\\' := by
        rintro rfl
        exact hc (by decide)
      rw [classAtom, if_neg hplain]
      rfl
    · intro hmem
      apply hc
      have hcases : c = '[' ∨ c = ']' ∨ c = '&' ∨ c = '~' := by simpa using hmem
      rcases hcases with rfl | rfl | rfl | rfl <;> decide

/-- No two dashes stand next to each other. -/
def DashesApart (body : List Char) : Prop :=
  body.IsChain fun c d ↦ ¬ (c = '-' ∧ d = '-')

theorem nextInClass_eq {offset : Nat} {d : Char} {ds : List Char} (hd : d ∉ ['[', ']', '&', '~'])
    (hdash : d = '-' → ds.head? ≠ some '-') :
    nextInClass offset d ds = classMember offset d ds := by
  unfold nextInClass
  split
  · exact absurd (by decide) hd
  · exact absurd (by decide) hd
  · exact absurd (by decide) hd
  · exact absurd rfl (hdash rfl)
  · exact absurd (by decide) hd
  · rfl

section body

variable {text rest : List Char} {symbols : List Symbol}

theorem head?_member (c : Char) (text : List Char) (hc : c ≠ '-') :
    (member c ++ text).head? ≠ some '-' := by
  obtain ⟨d, ds, hmember, -, -, hdash, -⟩ := exists_member_eq c
  rw [hmember]
  intro hhead
  exact hc (hdash.1 (Option.some.inj hhead))

/-- What may follow a member that stands for itself. -/
def EndsMember (c : Char) (text : List Char) : Prop :=
  text.head? ≠ some '-' ∨ c ≠ '-' ∧ ∃ rest, text = '-' :: ']' :: rest

theorem exists_next_single {c : Char} (htext : EndsMember c text) : ∃ d ds, member c = d :: ds ∧
    ∀ offset, nextInClass offset d (ds ++ text) = .ok (.member (.single c), ds.length + 1) := by
  obtain ⟨d, ds, hmember, hatom, hd, hdash, -⟩ := exists_member_eq c
  refine ⟨d, ds, hmember, ?_⟩
  intro offset
  have hdrop : (d :: (ds ++ text)).drop (ds.length + 1) = text := by
    rw [List.drop_succ_cons, List.drop_left]
  rw [nextInClass_eq hd]
  · apply classMember_single (hatom text)
    · -- a dash comes next only if it is the last member
      intro e more hmore
      rw [hdrop] at hmore
      rcases htext with hhead | ⟨-, after, rfl⟩
      · exact absurd (congrArg List.head? hmore) hhead
      · exact (List.cons.inj (List.cons.inj hmore).2).1.symm
    · rw [hdrop]
      rcases htext with hhead | ⟨-, after, rfl⟩
      · exact fun hend ↦ hhead (congrArg List.head? hend)
      · simp
  · rintro rfl
    have hc : c = '-' := hdash.1 rfl
    obtain rfl : ds = [] := by
      subst hc
      exact (List.cons.inj hmember).2.symm
    rcases htext with hhead | ⟨hne, -⟩
    · exact hhead
    · exact absurd hc hne

theorem exists_next_range {first last : Char} (hfirst : first ≠ '-') (hlast : last ≠ '-')
    (text : List Char) : ∃ d ds, member first ++ '-' :: member last = d :: ds ∧
      ∀ offset, nextInClass offset d (ds ++ text) =
        if first ≤ last then .ok (.member (.range first last), ds.length + 1)
        else .error (.reversedRange offset (offset + (ds.length + 1))) := by
  obtain ⟨d, ds, hmember, hatom, hd, hdash, -⟩ := exists_member_eq first
  obtain ⟨e, es, hother, hend, he, hedash, -⟩ := exists_member_eq last
  refine ⟨d, ds ++ '-' :: e :: es, by rw [hmember, hother]; rfl, ?_⟩
  intro offset
  have hwidth : (ds ++ '-' :: e :: es).length + 1 = ds.length + 1 + 1 + (es.length + 1) := by
    rw [List.length_append, List.length_cons, List.length_cons]
    omega
  have hdrop : (d :: (ds ++ ('-' :: e :: (es ++ text)))).drop (ds.length + 1) =
      '-' :: e :: (es ++ text) := by
    rw [List.drop_succ_cons, List.drop_left]
  rw [hwidth, List.append_assoc, List.cons_append, List.cons_append,
    nextInClass_eq hd fun hsame ↦ absurd (hdash.1 hsame) hfirst]
  refine classMember_range (hatom _) hdrop ⟨?_, fun hsame ↦ hlast (hedash.1 hsame)⟩ (hend text)
  rintro rfl
  exact he (by decide)

theorem inside_close (hrest : Scans rest symbols) :
    Inside (']' :: rest) (.closeClass :: symbols) := by
  intro offset
  have hnext : nextAt offset 1 ']' ([] ++ rest) = .ok (.closeClass, 0 + 1) := rfl
  have hscan := scanFrom_cons hnext
  rw [List.singleton_append] at hscan
  rw [hscan]
  change (scanFrom _ 0 0 rest).map _ = _
  rw [hrest]
  rfl

/-- The set of characters that a member lists. -/
def Member.set : Member → CharSet
  | single c => .single c
  | range first last => .range first last

theorem endsMember_body {c : Char} {cs : List Char} (hdashes : DashesApart (c :: cs))
    (hsingle : ∀ last more, cs ≠ '-' :: last :: more) (rest : List Char) :
    EndsMember c (cs.flatMap member ++ ']' :: rest) := by
  rcases cs with _ | ⟨d, ds⟩
  · exact .inl (by simp)
  · rw [List.flatMap_cons, List.append_assoc]
    by_cases hd : d = '-'
    · subst hd
      obtain rfl : ds = [] := by
        cases ds with
        | nil => rfl
        | cons last more => exact absurd rfl (hsingle last more)
      have hne : c ≠ '-' := fun hc ↦ (List.isChain_cons_cons.1 hdashes).1 ⟨hc, rfl⟩
      exact .inr ⟨hne, rest, rfl⟩
    · exact .inl (head?_member d _ hd)

theorem DashesApart.range {first last : Char} {cs : List Char}
    (hdashes : DashesApart (first :: '-' :: last :: cs)) :
    first ≠ '-' ∧ last ≠ '-' ∧ DashesApart cs := by
  obtain ⟨hfirst, htail⟩ := List.isChain_cons_cons.1 hdashes
  obtain ⟨hlast, hcs⟩ := List.isChain_cons_cons.1 htail
  exact ⟨fun hdash ↦ hfirst ⟨hdash, rfl⟩, fun hdash ↦ hlast ⟨rfl, hdash⟩, hcs.tail⟩

theorem flatMap_range (first last : Char) (cs text : List Char) :
    (first :: '-' :: last :: cs).flatMap member ++ text =
      (member first ++ '-' :: member last) ++ (cs.flatMap member ++ text) := by
  have hdash : member '-' = ['-'] := rfl
  simp [hdash]

/-- The members of a bracket are read one after the other. -/
theorem inside_body {body : List Char} (hdashes : DashesApart body)
    (hranges : ∀ m ∈ membersOf body, ¬ m.Reversed) (hrest : Scans rest symbols) :
    Inside (body.flatMap member ++ ']' :: rest)
      ((membersOf body).map (fun m ↦ .member m.set) ++ .closeClass :: symbols) := by
  fun_induction membersOf body with
  | case1 first last cs ih =>
    obtain ⟨hfirst, hlast, hcs⟩ := hdashes.range
    rw [List.forall_mem_cons] at hranges
    obtain ⟨d, ds, hmember, hnext⟩ := exists_next_range hfirst hlast
      (cs.flatMap member ++ ']' :: rest)
    rw [flatMap_range, hmember]
    refine .cons ?_ rfl (ih hcs hranges.2)
    intro offset
    rw [hnext, if_pos (Std.not_lt.1 hranges.1)]
    rfl
  | case2 c cs hsingle ih =>
    rw [List.forall_mem_cons] at hranges
    obtain ⟨d, ds, hmember, hnext⟩ := exists_next_single
      (endsMember_body hdashes (fun last more hcs ↦ hsingle last more hcs) rest)
    rw [List.flatMap_cons, List.append_assoc, hmember]
    exact .cons hnext rfl (ih hdashes.tail hranges.2)
  | case3 => exact inside_close hrest

/-- A range that begins behind its end is an error, and so is one behind the bracket. -/
theorem fails_body {body : List Char} (hdashes : DashesApart body)
    (hfails : (∃ m ∈ membersOf body, m.Reversed) ∨ Fails 0 rest) :
    Fails 1 (body.flatMap member ++ ']' :: rest) := by
  fun_induction membersOf body with
  | case1 first last cs ih =>
    obtain ⟨hfirst, hlast, hcs⟩ := hdashes.range
    obtain ⟨d, ds, hmember, hnext⟩ := exists_next_range hfirst hlast
      (cs.flatMap member ++ ']' :: rest)
    rw [flatMap_range, hmember]
    by_cases hle : first ≤ last
    · refine .cons ds (.member (.range first last)) ?_ (ih hcs ?_)
      · intro offset
        change nextInClass offset d _ = _
        rw [hnext, if_pos hle]
      · refine hfails.imp_left ?_
        rintro ⟨m, hm, hreversed⟩
        rcases List.mem_cons.1 hm with rfl | hm
        · exact absurd hreversed (Std.not_lt.2 hle)
        · exact ⟨m, hm, hreversed⟩
    · apply fails_of_next
      intro offset
      refine ⟨_, (hnext offset).trans (if_neg hle)⟩
  | case2 c cs hsingle ih =>
    obtain ⟨d, ds, hmember, hnext⟩ := exists_next_single
      (endsMember_body hdashes (fun last more hcs ↦ hsingle last more hcs) rest)
    rw [List.flatMap_cons, List.append_assoc, hmember]
    refine .cons ds _ hnext (ih hdashes.tail (hfails.imp_left ?_))
    rintro ⟨m, hm, hreversed⟩
    rcases List.mem_cons.1 hm with rfl | hm
    · exact absurd hreversed id
    · exact ⟨m, hm, hreversed⟩
  | case3 =>
    rcases hfails with ⟨m, hm, -⟩ | hfails
    · cases hm
    · exact .cons [] .closeClass (fun _ ↦ rfl) hfails

end body

/-- The dashes that a class begins with. -/
def dashes (body : List Char) : List Char :=
  body.takeWhile (· == '-')

/-- What a class holds behind the dashes that it begins with. -/
def behindDashes (body : List Char) : List Char :=
  body.dropWhile (· == '-')

theorem flatMap_dashes (body : List Char) : (dashes body).flatMap member = dashes body := by
  have hall : ∀ c ∈ dashes body, member c = [c] := by
    intro c hc
    obtain rfl : c = '-' := by simpa using List.mem_takeWhile_imp hc
    rfl
  rw [List.flatMap_congr hall, List.flatMap_singleton']

theorem flatMap_member (body : List Char) :
    body.flatMap member = dashes body ++ (behindDashes body).flatMap member := by
  rw [← flatMap_dashes, ← List.flatMap_append, dashes, behindDashes,
    List.takeWhile_append_dropWhile]

theorem takeWhile_body (body rest : List Char) :
    (body.flatMap member ++ ']' :: rest).takeWhile (· == '-') = dashes body := by
  induction body with
  | nil => rfl
  | cons c cs ih =>
    rw [dashes, List.flatMap_cons, List.append_assoc]
    by_cases hc : c = '-'
    · subst hc
      rw [List.takeWhile_cons_of_pos (by decide)]
      exact congrArg ('-' :: ·) ih
    · obtain ⟨d, ds, hmember, -, -, hdash, -⟩ := exists_member_eq c
      rw [hmember, List.cons_append, List.takeWhile_cons_of_neg (by simpa [hdash] using hc),
        List.takeWhile_cons_of_neg (by simpa using hc)]

/-- The sign of a class that is not one of members. -/
def classSign (negated : Bool) : List Char :=
  if negated then ['^'] else []

theorem openClass_text {negated : Bool} {text : List Char}
    (hplain : negated = false → text.head? ≠ some '^') (hclose : text.head? ≠ some ']') :
    openClass (classSign negated ++ text) =
      (.openClass negated (dashes text), (dashes text).length + if negated then 2 else 1) := by
  have hmembers : ¬ ((dashes text).isEmpty ∧ text.head? = some ']') := fun hboth ↦ hclose hboth.2
  cases negated with
  | true =>
    change (let members := if (dashes text).isEmpty ∧ text.head? = some ']' then [']']
      else dashes text; (Symbol.openClass true members, members.length + 2)) = _
    rw [if_neg hmembers]
    rfl
  | false =>
    change openClass text = _
    unfold openClass
    split
    next sign rest hsign =>
      split at hsign
      · exact absurd rfl (hplain rfl)
      · obtain ⟨rfl, rfl⟩ := Prod.mk.inj hsign
        dsimp only
        rw [← dashes, if_neg hmembers]

/-- The start of a class is its sign and the dashes behind it. -/
theorem openClass_eq {negated : Bool} {first : Char} (hfirst : negated = false → first ∉ signs)
    (more rest : List Char) :
    openClass (classSign negated ++ ((first :: more).flatMap member ++ ']' :: rest)) =
      (.openClass negated (dashes (first :: more)),
        (classSign negated ++ dashes (first :: more)).length + 1) := by
  obtain ⟨d, ds, hmember, -, hd, -, hsign⟩ := exists_member_eq first
  have hhead : ((first :: more).flatMap member ++ ']' :: rest).head? = some d := by
    rw [List.flatMap_cons, hmember]
    rfl
  have hwidth : (dashes (first :: more)).length + (if negated then 2 else 1) =
      (classSign negated ++ dashes (first :: more)).length + 1 := by
    cases negated <;> simp [classSign]
  rw [openClass_text, dashes, takeWhile_body, hwidth]
  · rintro hplain hcaret
    have hcaret : first = '^' := hsign.1 (Option.some.inj (hhead.symm.trans hcaret))
    exact hfirst hplain (by simp [hcaret, signs])
  · intro hclose
    obtain rfl : d = ']' := Option.some.inj (hhead.symm.trans hclose)
    exact hd (by decide)

/-- The members of a body whose first dash, if there is one, stands for itself. -/
theorem membersOf_eq {body : List Char} (hdashes : DashesApart body) :
    membersOf body = (dashes body).map .single ++ membersOf (behindDashes body) := by
  rcases body with _ | ⟨c, cs⟩
  · rfl
  by_cases hc : c = '-'
  · subst hc
    rcases cs with _ | ⟨d, ds⟩
    · rfl
    -- it is the only dash at the start, and no range begins with it
    have hd : d ≠ '-' := fun hd ↦ (List.isChain_cons_cons.1 hdashes).1 ⟨rfl, hd⟩
    have hlead : dashes ('-' :: d :: ds) = ['-'] := by
      rw [dashes, List.takeWhile_cons_of_pos (by decide),
        List.takeWhile_cons_of_neg (by simpa using hd)]
    have hbehind : behindDashes ('-' :: d :: ds) = d :: ds := by
      rw [behindDashes, List.dropWhile_cons_of_pos (by decide),
        List.dropWhile_cons_of_neg (by simpa using hd)]
    rw [hlead, hbehind, membersOf]
    · rfl
    · rintro last more hcs
      exact hd (List.cons.inj hcs).1
  · have hlead : dashes (c :: cs) = [] := List.takeWhile_cons_of_neg (by simpa using hc)
    have hbehind : behindDashes (c :: cs) = c :: cs :=
      List.dropWhile_cons_of_neg (by simpa using hc)
    rw [hlead, hbehind]
    rfl

end Glob

end LexTable
