import ScriptTokens.Proofs.TokenStream.Draining

namespace ScriptTokens

theorem exact_readToken {cursor next : Cursor} {last given : Option Token}
    (read : readToken last cursor = (given, next)) (exact : cursor.Exact) :
    next.Exact ∧ next.text = cursor.text := by
  constructor
  · cases hcut : Segment.cut (last.any Token.isOperand) cursor.rest with
    | none =>
      rw [readToken_of_final (Segment.cut_eq_none_iff.mp hcut)] at read
      rw [← (Prod.mk.inj read).2]
      exact exact.skip _
    | some cut =>
      obtain ⟨next', read', -, nextExact⟩ := readToken_of_cut exact hcut
      rw [read'] at read
      rw [← (Prod.mk.inj read).2]
      exact nextExact
  · have text := text_readToken last cursor
    rw [read] at text
    exact text

theorem exact_pullFrom {σ : Type} (wants : σ → Nat → Token → Bool × σ) (last : Option Token)
    (pulled : Pulled σ) (exact : pulled.cursor.Exact) :
    (pullFrom wants last pulled).cursor.Exact ∧
      (pullFrom wants last pulled).cursor.text = pulled.cursor.text := by
  fun_induction pullFrom wants last pulled with
  | case1 pulled cursor read => exact exact_readToken read exact
  | case2 pulled token cursor read state next wanted ih =>
    obtain ⟨nextExact, text⟩ := exact_readToken read exact
    obtain ⟨finalExact, final⟩ := ih nextExact
    exact ⟨finalExact, final.trans text⟩
  | case3 pulled token cursor read => exact exact_readToken read exact

namespace TokenStream

structure Alike (stream other : TokenStream) : Prop where
  place : stream.cursor.toPlace = other.cursor.toPlace
  last : stream.last = other.last
  exact : stream.cursor.Exact
  other_exact : other.cursor.Exact

theorem Alike.refl {stream : TokenStream} (exact : stream.cursor.Exact) : stream.Alike stream :=
  ⟨rfl, rfl, exact, exact⟩

theorem Alike.trans {stream middle other : TokenStream} (h : stream.Alike middle)
    (h' : middle.Alike other) : stream.Alike other :=
  ⟨h.place.trans h'.place, h.last.trans h'.last, h.exact, h'.other_exact⟩

theorem Alike.advance {stream other : TokenStream} (h : stream.Alike other) :
    stream.advance.1 = other.advance.1 ∧ stream.advance.2.Alike other.advance.2 := by
  have passed : stream.cursor.passed = other.cursor.passed := congrArg Place.passed h.place
  have rest : stream.cursor.rest = other.cursor.rest := congrArg Place.rest h.place
  cases hcut : Segment.cut (other.last.any Token.isOperand) other.cursor.rest with
  | none =>
    have final := Segment.cut_eq_none_iff.mp hcut
    rw [advance_eq, advance_eq, readToken_of_final final, readToken_of_final (rest ▸ final)]
    refine ⟨rfl, ?_, h.last, h.exact.skip _, h.other_exact.skip _⟩
    simp only [Cursor.skip, h.place]
  | some cut =>
    obtain ⟨segment, more⟩ := cut
    obtain ⟨otherNext, otherRead, otherPlace, otherExact⟩ := readToken_of_cut h.other_exact hcut
    rw [← rest, ← h.last] at hcut
    obtain ⟨next, read, place, nextExact⟩ := readToken_of_cut h.exact hcut
    rw [advance_eq, advance_eq, read, otherRead, passed]
    exact ⟨rfl, by rw [place, otherPlace, h.place], rfl, nextExact, otherExact⟩

theorem alike_pull {σ : Type} {stream : TokenStream} (exact : stream.cursor.Exact)
    (wants : σ → Nat → Token → Bool × σ) (state : σ) :
    (stream.pull .rollback wants state).2.Alike stream := by
  obtain ⟨pulledExact, text⟩ := exact_pullFrom wants stream.last ⟨[], stream.cursor, state⟩ exact
  exact ⟨rfl, rfl, pulledExact.restore text.symm, exact⟩

end TokenStream

end ScriptTokens
