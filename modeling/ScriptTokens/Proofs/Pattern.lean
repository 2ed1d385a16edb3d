import ScriptTokens.Pattern

/-!
# Matches

What a pattern accepts is a relation between spots (`Reaches`). A search tries the spots that it
reaches in order of preference (`run_eq`): `ends` lists them, all of them and no other
(`mem_ends_iff`). Repetitions carry the length of the rest as a bound, and each round leaves less
(`Reaches.rest_length_lt`). What is found in a text is therefore the first in order of preference of
the occurrences that start earliest (`find_eq_some`).
-/

namespace ScriptTokens.Pattern

/-- From one spot to another a pattern accepts the text between them. -/
inductive Reaches : Pattern → Spot → Spot → Prop
  | nothing {spot : Spot} : Reaches nothing spot spot
  | one {accepts : Char → Bool} {spot : Spot} {c : Char} {cs : List Char} :
      spot.rest = c :: cs → accepts c = true → Reaches (one accepts) spot (spot.step c cs)
  | seq {first second : Pattern} {spot middle reached : Spot} :
      Reaches first spot middle → Reaches second middle reached →
      Reaches (seq first second) spot reached
  | left {first second : Pattern} {spot reached : Spot} :
      Reaches first spot reached → Reaches (either first second) spot reached
  | right {first second : Pattern} {spot reached : Spot} :
      Reaches second spot reached → Reaches (either first second) spot reached
  | done {reluctant : Bool} {body : Pattern} {spot : Spot} :
      Reaches (many reluctant body) spot spot
  | round {reluctant : Bool} {body : Pattern} {spot middle reached : Spot} :
      Reaches body spot middle → spot.index < middle.index →
      Reaches (many reluctant body) middle reached → Reaches (many reluctant body) spot reached
  | group {number : Nat} {body : Pattern} {spot reached : Spot} :
      Reaches body spot reached →
      Reaches (group number body) spot (reached.record number spot.index)
  | textStart {spot : Spot} : spot.index = 0 → Reaches textStart spot spot
  | textEnd {spot : Spot} : spot.rest = [] → Reaches textEnd spot spot
  | wordEdge {spot : Spot} : spot.atWordEdge = true → Reaches wordEdge spot spot

theorem Reaches.exists_piece {pattern : Pattern} {spot reached : Spot}
    (h : pattern.Reaches spot reached) :
    ∃ piece, spot.rest = piece ++ reached.rest ∧ reached.index = spot.index + piece.length := by
  induction h with
  | one rest _ => exact ⟨[_], rest, rfl⟩
  | seq _ _ ih₁ ih₂ | round _ _ _ ih₁ ih₂ =>
    obtain ⟨piece, rest, index⟩ := ih₁
    obtain ⟨more, further, reached⟩ := ih₂
    refine ⟨piece ++ more, ?_, ?_⟩
    · rw [rest, further, List.append_assoc]
    · rw [reached, index, List.length_append, Nat.add_assoc]
  | left _ ih | right _ ih | group _ ih => exact ih
  | nothing | done | textStart | textEnd | wordEdge => exact ⟨[], rfl, rfl⟩

theorem Reaches.rest_length_lt {pattern : Pattern} {spot reached : Spot}
    (h : pattern.Reaches spot reached) (forward : spot.index < reached.index) :
    reached.rest.length < spot.rest.length := by
  obtain ⟨piece, rest, index⟩ := h.exists_piece
  rw [rest, List.length_append]
  omega

/-! ## Order of preference -/

def roundEnds (reluctant : Bool) (body : Spot → List Spot) : Nat → Spot → List Spot
  | 0, spot => [spot]
  | rounds + 1, spot =>
    let further := (body spot).flatMap fun reached =>
      if spot.index < reached.index then roundEnds reluctant body rounds reached else []
    if reluctant then spot :: further else further ++ [spot]

/-- The spots that a pattern reaches, in order of preference. -/
def ends : Pattern → Spot → List Spot
  | nothing, spot => [spot]
  | one accepts, spot =>
    match spot.rest with
    | [] => []
    | c :: cs => if accepts c then [spot.step c cs] else []
  | seq first second, spot => (ends first spot).flatMap (ends second)
  | either first second, spot => ends first spot ++ ends second spot
  | many reluctant body, spot => roundEnds reluctant (ends body) spot.rest.length spot
  | group number body, spot => (ends body spot).map (·.record number spot.index)
  | textStart, spot => if spot.index = 0 then [spot] else []
  | textEnd, spot => if spot.rest.isEmpty then [spot] else []
  | wordEdge, spot => if spot.atWordEdge then [spot] else []

theorem mem_roundEnds_succ {reluctant : Bool} {body : Spot → List Spot} {rounds : Nat}
    {spot reached : Spot} :
    reached ∈ roundEnds reluctant body (rounds + 1) spot ↔ reached = spot ∨
      ∃ middle ∈ body spot, spot.index < middle.index ∧
        reached ∈ roundEnds reluctant body rounds middle := by
  rw [roundEnds]
  cases reluctant <;> simp [or_comm]

theorem mem_roundEnds_iff {reluctant : Bool} {body : Pattern} {rounds : Nat} {spot reached : Spot}
    (listed : ∀ {spot reached : Spot}, reached ∈ body.ends spot ↔ body.Reaches spot reached)
    (bound : spot.rest.length ≤ rounds) :
    reached ∈ roundEnds reluctant body.ends rounds spot ↔
      (many reluctant body).Reaches spot reached := by
  induction rounds generalizing spot with
  | zero =>
    rw [roundEnds, List.mem_singleton]
    constructor
    · rintro rfl
      exact .done
    · intro reaches
      cases reaches with
      | done => rfl
      | round first forward _ =>
        -- Nothing is left that a round could take.
        have less := first.rest_length_lt forward
        omega
  | succ rounds ih =>
    rw [mem_roundEnds_succ]
    have further {middle : Spot} (first : body.Reaches spot middle)
        (forward : spot.index < middle.index) : middle.rest.length ≤ rounds := by
      have less := first.rest_length_lt forward
      omega
    constructor
    · rintro (rfl | ⟨middle, first, forward, more⟩)
      · exact .done
      · have first := listed.mp first
        exact .round first forward ((ih (further first forward)).mp more)
    · intro reaches
      cases reaches with
      | done => exact .inl rfl
      | round first forward more =>
        exact .inr ⟨_, listed.mpr first, forward, (ih (further first forward)).mpr more⟩

theorem mem_ends_iff {pattern : Pattern} {spot reached : Spot} :
    reached ∈ pattern.ends spot ↔ pattern.Reaches spot reached := by
  induction pattern generalizing spot reached with
  | nothing =>
    rw [ends, List.mem_singleton]
    constructor
    · rintro rfl
      exact .nothing
    · rintro ⟨⟩
      rfl
  | one accepts =>
    rw [ends]
    constructor
    · intro member
      split at member
      · cases member
      · rename_i c cs rest
        split at member
        · rename_i accepted
          rw [List.mem_singleton.mp member]
          exact .one rest accepted
        · cases member
    · rintro ⟨⟩
      rename_i rest accepted
      simp [rest, accepted]
  | seq first second ih₁ ih₂ =>
    rw [ends, List.mem_flatMap]
    constructor
    · rintro ⟨middle, front, back⟩
      exact .seq (ih₁.mp front) (ih₂.mp back)
    · rintro ⟨⟩
      rename_i middle front back
      exact ⟨middle, ih₁.mpr front, ih₂.mpr back⟩
  | either first second ih₁ ih₂ =>
    rw [ends, List.mem_append, ih₁, ih₂]
    constructor
    · rintro (front | back)
      · exact .left front
      · exact .right back
    · intro reaches
      cases reaches with
      | left front => exact .inl front
      | right back => exact .inr back
  | many reluctant body ih => exact mem_roundEnds_iff ih (Nat.le_refl _)
  | group number body ih =>
    rw [ends, List.mem_map]
    constructor
    · rintro ⟨inner, member, rfl⟩
      exact .group (ih.mp member)
    · rintro ⟨⟩
      rename_i inner reaches
      exact ⟨inner, ih.mpr reaches, rfl⟩
  | textStart | textEnd | wordEdge =>
    rw [ends]
    constructor
    · intro member
      split at member
      · rename_i holds
        rw [List.mem_singleton.mp member]
        constructor
        simpa using holds
      · cases member
    · rintro ⟨⟩
      rename_i holds
      simp [holds]

/-! ## Searching -/

section
variable {α : Type}

theorem findSome?_flatMap {β γ : Type} (items : List β) (more : β → List γ)
    (next : γ → Option α) :
    (items.flatMap more).findSome? next =
      items.findSome? fun item => (more item).findSome? next := by
  induction items with
  | nil => rfl
  | cons item items ih =>
    rw [List.flatMap_cons, List.findSome?_append, ih, List.findSome?_cons]
    cases (more item).findSome? next <;> rfl

theorem repeated_eq {reluctant : Bool} {body : Pattern}
    (searched : ∀ (spot : Spot) (next : Spot → Option α),
      body.run spot next = (body.ends spot).findSome? next)
    (rounds : Nat) (spot : Spot) (next : Spot → Option α) :
    repeated reluctant body.run rounds spot next =
      (roundEnds reluctant body.ends rounds spot).findSome? next := by
  induction rounds generalizing spot with
  | zero => simp [repeated, roundEnds]
  | succ rounds ih =>
    have another : (body.run spot fun reached =>
        if spot.index < reached.index then repeated reluctant body.run rounds reached next
        else none) =
        ((body.ends spot).flatMap fun reached =>
          if spot.index < reached.index then roundEnds reluctant body.ends rounds reached
          else []).findSome? next := by
      rw [searched, findSome?_flatMap]
      congr 1
      funext reached
      rw [ih, apply_ite (List.findSome? next)]
      rfl
    rw [repeated, roundEnds, another]
    cases reluctant with
    | true =>
      rw [if_pos rfl, if_pos rfl, List.findSome?_cons]
      cases next spot <;> rfl
    | false =>
      rw [if_neg Bool.false_ne_true, if_neg Bool.false_ne_true, List.findSome?_append,
        List.findSome?_cons]
      cases next spot <;> rfl

theorem run_eq (pattern : Pattern) (spot : Spot) (next : Spot → Option α) :
    pattern.run spot next = (pattern.ends spot).findSome? next := by
  induction pattern generalizing spot next with
  | nothing => simp [run, ends]
  | one accepts =>
    rw [run, ends]
    cases spot.rest with
    | nil => rfl
    | cons c cs => by_cases accepted : accepts c = true <;> simp [accepted]
  | seq first second ih₁ ih₂ =>
    rw [run, ends, ih₁, findSome?_flatMap]
    congr 1
    funext reached
    exact ih₂ reached next
  | either first second ih₁ ih₂ => rw [run, ends, ih₁, ih₂, List.findSome?_append]
  | many reluctant body ih => exact repeated_eq ih _ spot next
  | group number body ih =>
    rw [run, ends, ih, List.findSome?_map]
    rfl
  | textStart | textEnd | wordEdge =>
    rw [run, ends]
    split <;> simp

end

/-! ## Occurrences -/

def Spot.between (front rest : List Char) : Spot := ⟨front.getLast?, front.length, rest, []⟩

def Occurs (pattern : Pattern) (front piece behind : List Char) : Prop :=
  ∃ reached, pattern.Reaches (.between front (piece ++ behind)) reached ∧ reached.rest = behind

def OccursIn (pattern : Pattern) (text : List Char) : Prop :=
  ∃ front piece behind, text = front ++ (piece ++ behind) ∧ pattern.Occurs front piece behind

/-- Of the pieces that a pattern accepts between `front` and the end of the text, `piece` is the
one that it prefers. -/
def Prefers (pattern : Pattern) (front piece behind : List Char) : Prop :=
  ∃ reached, (pattern.ends (.between front (piece ++ behind))).head? = some reached ∧
    reached.rest = behind

theorem Prefers.occurs {pattern : Pattern} {front piece behind : List Char}
    (h : pattern.Prefers front piece behind) : pattern.Occurs front piece behind := by
  obtain ⟨reached, preferred, rest⟩ := h
  exact ⟨reached, mem_ends_iff.mp (List.mem_of_head? preferred), rest⟩

/-- The match of a pattern in a text: of the occurrences that start earliest the one that the
pattern prefers. -/
structure IsMatch (pattern : Pattern) (text front piece : List Char) : Prop where
  preferred : ∃ behind, text = front ++ (piece ++ behind) ∧ pattern.Prefers front piece behind
  earliest : ∀ earlier other behind, text = earlier ++ (other ++ behind) →
    pattern.Occurs earlier other behind → front.length ≤ earlier.length

theorem IsMatch.occurs {pattern : Pattern} {text front piece : List Char}
    (h : pattern.IsMatch text front piece) :
    ∃ behind, text = front ++ (piece ++ behind) ∧ pattern.Occurs front piece behind := by
  obtain ⟨behind, split, prefers⟩ := h.preferred
  exact ⟨behind, split, prefers.occurs⟩

theorem matchAt_eq_head (pattern : Pattern) (before : Option Char) (index : Nat)
    (rest : List Char) :
    pattern.matchAt before index rest =
      (pattern.ends ⟨before, index, rest, []⟩).head?.map fun reached =>
        ⟨index, reached.index, reached.recorded⟩ := by
  have first (spots : List Spot) : spots.findSome? some = spots.head? := by
    cases spots <;> rfl
  rw [matchAt, run_eq, first]

theorem matchAt_eq (pattern : Pattern) (front rest : List Char) :
    pattern.matchAt front.getLast? front.length rest =
      (pattern.ends (.between front rest)).head?.map fun reached =>
        ⟨front.length, reached.index, reached.recorded⟩ :=
  pattern.matchAt_eq_head _ _ rest

theorem matchAt_eq_some {pattern : Pattern} {front rest : List Char} {found : Match}
    (h : pattern.matchAt front.getLast? front.length rest = some found) :
    ∃ piece behind, rest = piece ++ behind ∧ pattern.Prefers front piece behind ∧
      found.start = front.length ∧ found.stop = front.length + piece.length := by
  rw [matchAt_eq] at h
  obtain ⟨reached, preferred, rfl⟩ := Option.map_eq_some_iff.mp h
  obtain ⟨piece, taken, index⟩ := (mem_ends_iff.mp (List.mem_of_head? preferred)).exists_piece
  have taken : rest = piece ++ reached.rest := taken
  refine ⟨piece, reached.rest, taken, ⟨reached, ?_, rfl⟩, rfl, index⟩
  rw [← taken]
  exact preferred

theorem not_occurs_of_matchAt {pattern : Pattern} {front piece behind : List Char}
    (h : pattern.matchAt front.getLast? front.length (piece ++ behind) = none) :
    ¬ pattern.Occurs front piece behind := by
  rintro ⟨reached, reaches, -⟩
  rw [matchAt_eq, Option.map_eq_none_iff, List.head?_eq_none_iff] at h
  have member := mem_ends_iff.mpr reaches
  rw [h] at member
  exact List.not_mem_nil member

theorem findFrom_snoc (pattern : Pattern) (before : List Char) (c : Char) (cs : List Char) :
    pattern.findFrom before.getLast? before.length (c :: cs) =
      (pattern.matchAt before.getLast? before.length (c :: cs)).or
        (pattern.findFrom (before ++ [c]).getLast? (before ++ [c]).length cs) := by
  rw [findFrom, List.getLast?_append, List.length_append]
  rfl

theorem findFrom_eq_none {pattern : Pattern} {before text : List Char}
    (h : pattern.findFrom before.getLast? before.length text = none)
    {front piece behind : List Char} (split : text = front ++ (piece ++ behind)) :
    ¬ pattern.Occurs (before ++ front) piece behind := by
  induction front generalizing before text with
  | nil =>
    rw [List.append_nil]
    apply not_occurs_of_matchAt
    rw [List.nil_append] at split
    rw [← split]
    cases text with
    | nil => exact h
    | cons c cs =>
      rw [findFrom_snoc, Option.or_eq_none_iff] at h
      exact h.1
  | cons c front ih =>
    subst split
    rw [List.cons_append, findFrom_snoc, Option.or_eq_none_iff] at h
    simpa using ih h.2 rfl

structure FoundBehind (pattern : Pattern) (before text : List Char) (found : Match)
    (front piece : List Char) : Prop where
  preferred : ∃ behind, text = front ++ (piece ++ behind) ∧
    pattern.Prefers (before ++ front) piece behind
  earliest : ∀ earlier other behind, text = earlier ++ (other ++ behind) →
    pattern.Occurs (before ++ earlier) other behind → front.length ≤ earlier.length
  start : found.start = (before ++ front).length
  stop : found.stop = (before ++ front).length + piece.length

theorem foundBehind_of_matchAt {pattern : Pattern} {before text : List Char} {found : Match}
    (h : pattern.matchAt before.getLast? before.length text = some found) :
    ∃ front piece, pattern.FoundBehind before text found front piece := by
  obtain ⟨piece, behind, split, prefers, start, stop⟩ := matchAt_eq_some h
  refine ⟨[], piece, ⟨behind, split, ?_⟩, fun _ _ _ _ _ => Nat.zero_le _, ?_, ?_⟩
  · rwa [List.append_nil]
  · rwa [List.append_nil]
  · rwa [List.append_nil]

theorem FoundBehind.step {pattern : Pattern} {before cs front piece : List Char} {c : Char}
    {found : Match} (nowhere : pattern.matchAt before.getLast? before.length (c :: cs) = none)
    (h : pattern.FoundBehind (before ++ [c]) cs found front piece) :
    pattern.FoundBehind before (c :: cs) found (c :: front) piece := by
  have past (more : List Char) : (before ++ [c]) ++ more = before ++ c :: more :=
    List.append_assoc before [c] more
  obtain ⟨⟨behind, split, prefers⟩, earliest, start, stop⟩ := h
  rw [past] at prefers start stop
  refine ⟨⟨behind, congrArg (c :: ·) split, prefers⟩, ?_, start, stop⟩
  intro earlier other after whole elsewhere
  cases earlier with
  | nil =>
    rw [List.nil_append] at whole
    rw [whole] at nowhere
    rw [List.append_nil] at elsewhere
    exact absurd elsewhere (not_occurs_of_matchAt nowhere)
  | cons d earlier =>
    obtain ⟨rfl, further⟩ := List.cons.inj whole
    rw [← past] at elsewhere
    exact Nat.succ_le_succ (earliest earlier other after further elsewhere)

theorem findFrom_eq_some {pattern : Pattern} {before text : List Char} {found : Match}
    (h : pattern.findFrom before.getLast? before.length text = some found) :
    ∃ front piece, pattern.FoundBehind before text found front piece := by
  induction text generalizing before with
  | nil => exact foundBehind_of_matchAt h
  | cons c cs ih =>
    rw [findFrom_snoc, Option.or_eq_some_iff] at h
    rcases h with here | ⟨nowhere, later⟩
    · exact foundBehind_of_matchAt here
    · obtain ⟨front, piece, found⟩ := ih later
      exact ⟨c :: front, piece, found.step nowhere⟩

theorem find_eq_findFrom (pattern : Pattern) (text : List Char) :
    pattern.find text =
      pattern.findFrom ([] : List Char).getLast? ([] : List Char).length text := rfl

theorem find_eq_some {pattern : Pattern} {text : List Char} {found : Match}
    (h : pattern.find text = some found) :
    ∃ front piece, pattern.IsMatch text front piece ∧ found.start = front.length ∧
      found.stop = front.length + piece.length := by
  rw [find_eq_findFrom] at h
  obtain ⟨front, piece, preferred, earliest, start, stop⟩ := findFrom_eq_some h
  exact ⟨front, piece, ⟨preferred, earliest⟩, start, stop⟩

theorem find_eq_none_iff {pattern : Pattern} {text : List Char} :
    pattern.find text = none ↔ ¬ pattern.OccursIn text := by
  constructor
  · rintro h ⟨front, piece, behind, split, occurs⟩
    rw [find_eq_findFrom] at h
    exact findFrom_eq_none h split occurs
  · intro nowhere
    cases h : pattern.find text with
    | none => rfl
    | some found =>
      obtain ⟨front, piece, ⟨⟨behind, split, prefers⟩, -⟩, -⟩ := find_eq_some h
      exact absurd ⟨front, piece, behind, split, prefers.occurs⟩ nowhere

end ScriptTokens.Pattern
