import ScriptTokens.Cursor
import ScriptTokens.Proofs.Pattern

namespace ScriptTokens.Pattern

namespace Spot

def pass (spot : Spot) (piece behind : List Char) : Spot :=
  { spot with
    before := piece.getLast?.or spot.before
    index := spot.index + piece.length
    rest := behind }

@[simp] theorem rest_pass (spot : Spot) (piece behind : List Char) :
    (spot.pass piece behind).rest = behind := rfl

@[simp] theorem index_pass (spot : Spot) (piece behind : List Char) :
    (spot.pass piece behind).index = spot.index + piece.length := rfl

theorem pass_pass (spot : Spot) (piece more between behind : List Char) :
    (spot.pass piece between).pass more behind = spot.pass (piece ++ more) behind := by
  simp only [pass, List.getLast?_append, List.length_append, Nat.add_assoc, Option.or_assoc]

theorem pass_nil {spot : Spot} {behind : List Char} (rest : spot.rest = behind) :
    spot.pass [] behind = spot := by
  rw [← rest]
  rfl

end Spot

def First (pattern : Pattern) (spot reached : Spot) : Prop :=
  (pattern.ends spot).head? = some reached

def Refuses (pattern : Pattern) (spot : Spot) : Prop := pattern.ends spot = []

theorem first_nothing (spot : Spot) : First nothing spot spot := rfl

theorem first_one {accepts : Char → Bool} {spot : Spot} {c : Char} {cs : List Char}
    (rest : spot.rest = c :: cs) (accepted : accepts c = true) :
    First (one accepts) spot (spot.pass [c] cs) := by
  rw [First, ends, rest]
  simp only [accepted, if_true]
  rfl

theorem refuses_one {accepts : Char → Bool} {spot : Spot}
    (h : ∀ c ∈ spot.rest.head?, accepts c = false) : Refuses (one accepts) spot := by
  rw [Refuses, ends]
  cases rest : spot.rest with
  | nil => rfl
  | cons c cs =>
    rw [rest] at h
    simp [h c rfl]

theorem First.seq {first second : Pattern} {spot middle reached : Spot}
    (front : First first spot middle) (back : First second middle reached) :
    First (seq first second) spot reached := by
  obtain ⟨more, listed⟩ := List.head?_eq_some_iff.mp front
  obtain ⟨others, further⟩ := List.head?_eq_some_iff.mp back
  rw [First, ends, listed, List.flatMap_cons, further]
  rfl

theorem Refuses.seq {first : Pattern} {spot : Spot} (h : Refuses first spot) (second : Pattern) :
    Refuses (seq first second) spot := by
  rw [Refuses, ends, h, List.flatMap_nil]

theorem First.left {first : Pattern} {spot reached : Spot} (h : First first spot reached)
    (second : Pattern) : First (either first second) spot reached := by
  rw [First, ends, List.head?_append, h]
  rfl

theorem First.right {first second : Pattern} {spot reached : Spot} (refused : Refuses first spot)
    (h : First second spot reached) : First (either first second) spot reached := by
  rw [First, ends, refused, List.nil_append, h]

theorem Refuses.either {first second : Pattern} {spot : Spot} (front : Refuses first spot)
    (back : Refuses second spot) : Refuses (either first second) spot := by
  rw [Refuses, ends, front, back]
  rfl

theorem First.group {body : Pattern} {spot reached : Spot} (h : First body spot reached)
    (number : Nat) : First (group number body) spot (reached.record number spot.index) := by
  rw [First, ends, List.head?_map, h]
  rfl

theorem first_textEnd {spot : Spot} (rest : spot.rest = []) : First textEnd spot spot := by
  rw [First, ends, rest]
  rfl

theorem ends_literal (text : String) (spot : Spot) :
    (literal text).ends spot =
      if text.toList <+: spot.rest then
        [spot.pass text.toList (spot.rest.drop text.toList.length)]
      else [] := by
  unfold literal
  induction text.toList generalizing spot with
  | nil =>
    simp [ends, Spot.pass_nil]
  | cons c cs ih =>
    cases rest : spot.rest with
    | nil => simp [ends, rest]
    | cons d ds =>
      by_cases same : d = c
      · have stepped : spot.step d ds = spot.pass [d] ds := rfl
        subst same
        simp only [List.foldr_cons, ends, rest, beq_self_eq_true, if_true, stepped,
          List.flatMap_cons, List.flatMap_nil, List.append_nil, ih, Spot.rest_pass,
          Spot.pass_pass, List.cons_prefix_cons, true_and]
        rfl
      · simp [ends, rest, same, List.cons_prefix_cons, Ne.symm same]

theorem first_literal {text : String} {spot : Spot} {behind : List Char}
    (rest : spot.rest = text.toList ++ behind) :
    First (literal text) spot (spot.pass text.toList behind) := by
  rw [First, ends_literal, rest, if_pos (List.prefix_append _ _), List.drop_left]
  rfl

theorem refuses_literal {text : String} {spot : Spot} (h : ¬ text.toList <+: spot.rest) :
    Refuses (literal text) spot := by
  rw [Refuses, ends_literal, if_neg h]

/-- Round after round a pattern makes its first choice, until it refuses. -/
inductive Greedy (body : Pattern) : Spot → Spot → Prop
  | stop {spot : Spot} : Refuses body spot → Greedy body spot spot
  | go {spot middle reached : Spot} : First body spot middle → spot.index < middle.index →
      Greedy body middle reached → Greedy body spot reached

theorem Greedy.first_roundEnds {body : Pattern} {spot reached : Spot}
    (h : Greedy body spot reached) {rounds : Nat} (bound : spot.rest.length ≤ rounds) :
    (roundEnds false body.ends rounds spot).head? = some reached := by
  induction h generalizing rounds with
  | @stop spot refused =>
    cases rounds with
    | zero => rfl
    | succ rounds => simp [roundEnds, show body.ends spot = [] from refused]
  | @go spot middle reached first forward _ ih =>
    have reaches : body.Reaches spot middle := mem_ends_iff.mp (List.mem_of_head? first)
    have less := reaches.rest_length_lt forward
    obtain ⟨more, listed⟩ := List.head?_eq_some_iff.mp first
    cases rounds with
    | zero => omega
    | succ rounds =>
      have left : middle.rest.length ≤ rounds := by omega
      have further := ih left
      simp [roundEnds, listed, forward, List.head?_append, further]

theorem Greedy.first {body : Pattern} {spot reached : Spot} (h : Greedy body spot reached) :
    First (many false body) spot reached := h.first_roundEnds (Nat.le_refl _)

theorem greedy_one (accepts : Char → Bool) (spot : Spot) :
    Greedy (one accepts) spot
      (spot.pass (spot.rest.takeWhile accepts) (spot.rest.dropWhile accepts)) := by
  generalize rest : spot.rest = text
  induction text generalizing spot with
  | nil =>
    rw [List.takeWhile_nil, List.dropWhile_nil, Spot.pass_nil rest]
    exact .stop (refuses_one (by simp [rest]))
  | cons c cs ih =>
    cases accepted : accepts c with
    | false =>
      rw [List.takeWhile_cons_of_neg (by simp [accepted]),
        List.dropWhile_cons_of_neg (by simp [accepted]), Spot.pass_nil rest]
      exact .stop (refuses_one (by simp [rest, accepted]))
    | true =>
      rw [List.takeWhile_cons_of_pos accepted, List.dropWhile_cons_of_pos accepted]
      have further := ih (spot.pass [c] cs) rfl
      rw [Spot.pass_pass] at further
      exact .go (first_one rest accepted) (by simp) further

theorem first_oneThenMany (starts goesOn : Char → Bool) {spot : Spot} {c : Char} {cs : List Char}
    (rest : spot.rest = c :: cs) (started : starts c = true) :
    First (seq (one starts) (many false (one goesOn))) spot
      (spot.pass (c :: cs.takeWhile goesOn) (cs.dropWhile goesOn)) := by
  have further := (greedy_one goesOn (spot.pass [c] cs)).first
  rw [Spot.rest_pass, Spot.pass_pass] at further
  exact (first_one rest started).seq further

theorem start_matchAt {pattern : Pattern} {before : Option Char} {index : Nat}
    {rest : List Char} {found : Match} (h : pattern.matchAt before index rest = some found) :
    found.start = index := by
  rw [matchAt_eq_head] at h
  obtain ⟨reached, -, rfl⟩ := Option.map_eq_some_iff.mp h
  rfl

theorem le_start_findFrom {pattern : Pattern} {before : Option Char} {index : Nat}
    {rest : List Char} {found : Match} (h : pattern.findFrom before index rest = some found) :
    index ≤ found.start := by
  induction rest generalizing before index with
  | nil => exact Nat.le_of_eq (start_matchAt h).symm
  | cons c cs ih =>
    rw [findFrom, Option.or_eq_some_iff] at h
    rcases h with here | ⟨-, later⟩
    · exact Nat.le_of_eq (start_matchAt here).symm
    · exact Nat.le_trans (Nat.le_succ index) (ih later)

end Pattern

namespace Cursor
open Pattern

theorem matchHere_eq (cursor : Cursor) (pattern : Pattern) :
    cursor.matchHere pattern =
      (pattern.ends (.start cursor.rest)).head?.map fun reached =>
        ⟨0, reached.index, reached.recorded⟩ := by
  have here : pattern.matchAt none 0 cursor.rest = _ := pattern.matchAt_eq_head none 0 cursor.rest
  rw [matchHere, find, Spot.start, ← here]
  cases found : pattern.matchAt none 0 cursor.rest with
  | some found' =>
    have start := start_matchAt found
    cases rest : cursor.rest <;> rw [rest] at found <;> simp [findFrom, found, start]
  | none =>
    cases rest : cursor.rest with
    | nil =>
      rw [rest] at found
      simp [findFrom, found]
    | cons c cs =>
      rw [rest] at found
      rw [findFrom, found, Option.none_or, Option.filter_eq_none_iff]
      intro later searched
      have beyond := le_start_findFrom searched
      simp only [beq_iff_eq]
      omega

theorem scan_of_first {cursor : Cursor} {pattern : Pattern} {piece behind : List Char}
    (rest : cursor.rest = piece ++ behind)
    (first : First pattern (.start cursor.rest) ((Spot.start cursor.rest).pass piece behind)) :
    cursor.scan pattern = (some piece, cursor.skip piece.length) := by
  have found := cursor.matchHere_eq pattern
  rw [first, Option.map_some] at found
  simp only [scan, found, Spot.index_pass, Spot.start, Nat.zero_add]
  rw [rest, List.take_left]

theorem scan_of_refuses {cursor : Cursor} {pattern : Pattern}
    (refused : Refuses pattern (.start cursor.rest)) : cursor.scan pattern = (none, cursor) := by
  have found := cursor.matchHere_eq pattern
  rw [show pattern.ends _ = [] from refused] at found
  simp only [scan, found, List.head?_nil, Option.map_none]

end Cursor

end ScriptTokens
