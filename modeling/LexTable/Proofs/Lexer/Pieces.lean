import LexTable.Lexer.Cursor
import LexTable.Proofs.Regex.Bounds

/-!
# Pieces of a match

An action divides a match into pieces of which none is empty and which together are as long as the
match. Cut off a text of that length one after the other, such pieces tile the text.
-/

namespace LexTable

/-- How many characters pieces have together. -/
def piecesLength (pieces : List (Kind × Nat)) : Nat :=
  pieces.foldr (fun piece length ↦ piece.2 + length) 0

/-- Pieces of at least one character each, `length` characters together. -/
structure Partition (pieces : List (Kind × Nat)) (length : Nat) : Prop where
  pos : ∀ piece ∈ pieces, 0 < piece.2
  length_eq : piecesLength pieces = length

theorem Partition.single {kind : Kind} {length : Nat} (hlength : 0 < length) :
    Partition [(kind, length)] length where
  pos := by simpa using hlength
  length_eq := Nat.add_zero length

theorem Partition.cons {kind : Kind} {first length : Nat} {pieces : List (Kind × Nat)}
    (hfirst : 0 < first) (hpieces : Partition pieces length) :
    Partition ((kind, first) :: pieces) (first + length) where
  pos := List.forall_mem_cons.2 ⟨hfirst, hpieces.pos⟩
  length_eq := congrArg (first + ·) hpieces.length_eq

/-- The groups may stand in any order and overlap: what counts is that none ends beyond the
match. -/
theorem Action.divide_partition {stop done : Nat} (groups : List (Kind × Option (Nat × Nat)))
    (hdone : done ≤ stop)
    (hgroups : ∀ kind first last, (kind, some (first, last)) ∈ groups → last ≤ stop) :
    Partition (Action.divide stop done groups) (stop - done) := by
  fun_induction Action.divide stop done groups with
  | case1 done hlt => exact .single (by omega)
  | case2 done hge =>
    have hzero : 0 = stop - done := by omega
    exact ⟨by simp, hzero⟩
  | case3 done kind first last groups hgroup ih =>
    have hlast : last ≤ stop := hgroups kind first last (List.mem_cons_self ..)
    have hpieces : Partition (Action.divide stop last groups) (stop - last) := by
      apply ih hlast
      intro kind first last hmem
      exact hgroups kind first last (List.mem_cons_of_mem _ hmem)
    have hcons : Partition ((kind, last - first) :: Action.divide stop last groups)
        (last - first + (stop - last)) := hpieces.cons (by omega)
    split
    · next hgap =>
      have hsum : stop - done = first - done + (last - first + (stop - last)) := by omega
      rw [hsum]
      exact hcons.cons (by omega)
    · next hgap =>
      have hsum : stop - done = last - first + (stop - last) := by omega
      rw [hsum]
      exact hcons
  | case4 done kind first last groups hgroup ih =>
    apply ih hdone
    intro kind first last hmem
    exact hgroups kind first last (List.mem_cons_of_mem _ hmem)
  | case5 done kind groups ih =>
    apply ih hdone
    intro kind first last hmem
    exact hgroups kind first last (List.mem_cons_of_mem _ hmem)

theorem Action.pieces_partition {m : Match} {length : Nat} (action : Action)
    (hfits : m.Fits length) (hpos : 0 < m.length) : Partition (action.pieces m) m.length := by
  cases action with
  | token kind => exact .single hpos
  | byGroups kinds =>
    apply Action.divide_partition _ (Nat.zero_le _)
    intro kind first last hmem
    obtain ⟨index, hindex, hgroup⟩ := List.mem_mapIdx.1 hmem
    exact hfits.group_le (index + 1) first last (Prod.mk.inj hgroup).2

/-- The token of a text that begins at `position`. -/
def Token.of (kind : Kind) (position : Nat) (value : List Char) : Token :=
  ⟨kind, String.ofList value, ⟨position, position + Text.byteLength value⟩⟩

/-- The tokens hold a text that begins at `position` piece by piece, without a gap. -/
inductive Tiles : Nat → List Char → List Token → Prop
  | nil (position : Nat) : Tiles position [] []
  | cons (kind : Kind) (position : Nat) {value rest : List Char} {tokens : List Token}
      (hvalue : value ≠ []) (hrest : Tiles (position + Text.byteLength value) rest tokens) :
      Tiles position (value ++ rest) (Token.of kind position value :: tokens)

namespace Tiles

theorem append {position : Nat} {text more : List Char} {tokens others : List Token}
    (htiles : Tiles position text tokens)
    (hmore : Tiles (position + Text.byteLength text) more others) :
    Tiles position (text ++ more) (tokens ++ others) := by
  induction htiles with
  | nil position => exact hmore
  | cons kind position hvalue _ ih =>
    rw [Text.byteLength_append, ← Nat.add_assoc] at hmore
    rw [List.append_assoc, List.cons_append]
    exact .cons kind position hvalue (ih hmore)

theorem length_le {position : Nat} {text : List Char} {tokens : List Token}
    (htiles : Tiles position text tokens) : tokens.length ≤ text.length := by
  induction htiles with
  | nil => exact Nat.le_refl _
  | cons _ _ hvalue _ ih =>
    have hpos := List.length_pos_iff.2 hvalue
    rw [List.length_cons, List.length_append]
    omega

theorem tokens_ne_nil {position : Nat} {text : List Char} {tokens : List Token}
    (htiles : Tiles position text tokens) (htext : text ≠ []) : tokens ≠ [] := by
  cases htiles with
  | nil => exact absurd rfl htext
  | cons => exact List.cons_ne_nil _ _

theorem byteLength_pos {position : Nat} {text : List Char} {tokens : List Token}
    (htiles : Tiles position text tokens) (htokens : tokens ≠ []) : 0 < Text.byteLength text := by
  cases htiles with
  | nil => exact absurd rfl htokens
  | cons _ _ hvalue =>
    rw [Text.byteLength_append]
    exact Nat.add_pos_left (Text.byteLength_pos hvalue) _

end Tiles

theorem Token.cut_tiles {pieces : List (Kind × Nat)} {text : List Char} (position : Nat)
    (hpieces : Partition pieces text.length) :
    Tiles position text (Token.cut position text pieces) := by
  induction pieces generalizing position text with
  | nil =>
    have hempty : text = [] := List.length_eq_zero_iff.1 hpieces.length_eq.symm
    rw [hempty]
    exact .nil position
  | cons piece pieces ih =>
    obtain ⟨kind, length⟩ := piece
    obtain ⟨hpos, hrest⟩ := List.forall_mem_cons.1 hpieces.pos
    have hsum : length + piecesLength pieces = text.length := hpieces.length_eq
    have hvalue : text.take length ≠ [] := by
      intro hnil
      have hlength := congrArg List.length hnil
      rw [List.length_take, List.length_nil] at hlength
      omega
    have hdrop : Partition pieces (text.drop length).length := by
      refine ⟨hrest, ?_⟩
      rw [List.length_drop]
      omega
    have htiles := Tiles.cons kind position hvalue (ih (position + _) hdrop)
    rwa [List.take_append_drop] at htiles

end LexTable
