import ScriptDeps.Parse.Lexer
import ScriptDeps.Proofs.Parse.Tree
import ScriptDeps.Proofs.Source.Reading

namespace ScriptDeps.Parse

open Source (Glyph Cursor Position Between)
open Source.Cursor (Reads Stands)
open Grammar (TokenSet)

/-! # Tokens lie between glyphs

Every scan reads with its cursor in the ordinary way: it takes glyphs, skips them and marks the end
of the token. So all tokens start and stop between two glyphs of the source. Main statements:

* `scan_reads`, `readToken_reads`: the two ways to find a token;
* `nextToken_within`: the token behind a place.
-/

section

variable {c d : Cursor}

/-! ## Scans -/

theorem scanTemplate_go_reads (n : Nat) (found : Bool) (h : Reads c d) :
    Reads c (scanTemplate.go n found d).2 := by
  induction n generalizing d found with
  | zero => exact h
  | succ n ih =>
    unfold scanTemplate.go
    dsimp only
    -- the end of the token is marked before every glyph
    split
    · exact h.mark
    · split
      · exact h.mark
      · split
        · exact h.mark.take
        · exact ih true h.mark.take

theorem skipBlockComment_go_reads (n : Nat) (broken : Bool) (h : Reads c d) :
    Reads c (skipBlockComment.go n broken d).2.2 := by
  induction n generalizing d broken with
  | zero => exact h
  | succ n ih =>
    unfold skipBlockComment.go
    dsimp only
    split
    · exact h
    · split
      · split
        · exact h.skip.skip
        · exact ih broken h.skip
      · exact ih _ h.skip

theorem skipGap_go_reads (all : Bool) (n : Nat) (broken seen : Bool) (h : Reads c d) :
    Reads c (skipGap.go all n broken seen d).2.2 := by
  induction n generalizing d broken seen with
  | zero => exact h
  | succ n ih =>
    unfold skipGap.go
    have hspace := h.skipWhile Glyph.isSpace
    generalize d.skipWhile Glyph.isSpace = e at hspace
    dsimp only
    -- a comment to the end of the line, a block comment, or something else behind a slash
    split
    · exact hspace
    · split
      · exact ih broken true (hspace.skip.skip.skipWhile _)
      · split
        · have hcomment : Reads c (skipBlockComment broken e.skip.skip).2.2 :=
            skipBlockComment_go_reads _ broken hspace.skip.skip
          split
          · exact hcomment
          · exact ih _ _ hcomment
        · exact hspace.skip

theorem skipGap_reads (all : Bool) (h : Reads c d) : Reads c (skipGap all d).2.2 :=
  skipGap_go_reads all _ false false h

theorem spelled_reads (h : Reads c d) (xs : List Char) :
    Reads c (startsStatement.spelled xs d).2 := by
  induction xs generalizing d with
  | nil => exact h
  | cons x xs ih =>
    unfold startsStatement.spelled
    split
    · exact ih h.skip
    · exact h

theorem startsStatement_reads (h : Reads c d) : Reads c (startsStatement d).2 := by
  unfold startsStatement
  dsimp only
  split
  · exact h
  · split
    · exact h.skip
    · split
      · exact h.skip
      · split
        · exact h.skip
        · split
          · exact h.skip
          · split
            · -- only the word for instances goes on a line that the word `in` goes on
              split
              · exact h.skip
              · split
                · exact h.skip.skip
                · have hword := spelled_reads h.skip.skip "stanceof".toList
                  split
                  · next hspelled =>
                    rw [hspelled] at hword
                    exact hword
                  · next hspelled =>
                    rw [hspelled] at hword
                    exact hword
            · exact h

theorem scanSemicolon_go_reads (beforeComment : Bool) (n : Nat) (seen : Bool) (h : Reads c d) :
    Reads c (scanSemicolon.go beforeComment n seen d).2.2 := by
  induction n generalizing d seen with
  | zero => exact h
  | succ n ih =>
    unfold scanSemicolon.go
    have hgap : Reads c (if d.glyph.is '/' then skipGap false d
        else (Gap.undecided, false, d)).2.2 := by
      split
      · exact skipGap_reads false h
      · exact h
    generalize (if d.glyph.is '/' then skipGap false d else (Gap.undecided, false, d)) = r at hgap
    obtain ⟨gap, seenHere, e⟩ := r
    dsimp only at hgap ⊢
    split
    · exact h
    · split
      · exact hgap
      · split
        · exact hgap
        · split
          · exact hgap
          · split
            · -- what stands on the next line decides
              have hline := skipGap_reads true hgap.skip
              generalize skipGap true e.skip = r at hline
              obtain ⟨gap', seenNext, f⟩ := r
              dsimp only at hline ⊢
              split
              · exact hline
              · exact startsStatement_reads hline
            · split
              · exact hgap
              · exact ih _ hgap.skip

theorem scanConditionalMark_reads (h : Reads c d) : Reads c (scanConditionalMark d).2 := by
  unfold scanConditionalMark
  have hspace := h.skipWhile Glyph.isSpace
  generalize d.skipWhile Glyph.isSpace = e at hspace
  dsimp only
  split
  · exact hspace
  · split
    · exact hspace.take
    · split
      · exact hspace.take.mark.take
      · exact hspace.take.mark

theorem scanMarkupComment_reads (h : Reads c d) : Reads c (scanMarkupComment d).2 := by
  have hopened : ∀ {d} xs, Reads c d → Reads c (scanMarkupComment.opened xs d).2 := by
    intro d xs h
    induction xs generalizing d with
    | nil => exact (h.takeWhile _).mark
    | cons x xs ih =>
      unfold scanMarkupComment.opened
      split
      · exact ih h.take
      · exact h
  unfold scanMarkupComment
  dsimp only
  split
  · exact hopened _ (h.skipWhile _)
  · split
    · exact hopened _ (h.skipWhile _)
    · exact h.skipWhile _

theorem scanElementText_go_reads (n : Nat) (text atBreak : Bool) (h : Reads c d) :
    Reads c (scanElementText.go n text atBreak d).2 := by
  induction n generalizing d text atBreak with
  | zero => exact h
  | succ n ih =>
    unfold scanElementText.go
    dsimp only
    split
    · exact h
    · split
      · exact ih text true h.take
      · exact ih _ _ h.take

/-- The scanner reads with its cursor, whether or not it finds a token. -/
theorem scan_reads (valid : TokenSet) (h : Reads c d) : Reads c (scan valid d).2 := by
  unfold scan
  dsimp only
  -- in the order in which the scanner looks for tokens
  split
  · split
    · exact h
    · exact scanTemplate_go_reads _ false h
  · split
    · have hsemicolon : Reads c (scanSemicolon (!valid.testBit Grammar.orSymbol) d).2.2 :=
        scanSemicolon_go_reads _ _ false h.mark
      split
      · next hfound =>
        rw [hfound] at hsemicolon
        exact hsemicolon
      · next hfound =>
        rw [hfound] at hsemicolon
        split
        · exact scanConditionalMark_reads hsemicolon
        · exact hsemicolon
    · split
      · exact scanConditionalMark_reads h
      · have htext : Reads c (if valid.testBit Grammar.elementText then scanElementText d
            else (false, d)).2 := by
          split
          · exact scanElementText_go_reads _ false false h
          · exact h
        generalize (if valid.testBit Grammar.elementText then scanElementText d
          else (false, d)) = r at htext
        obtain ⟨text, e⟩ := r
        dsimp only at htext ⊢
        split
        · exact htext
        · split
          · exact scanMarkupComment_reads htext
          · exact htext

/-! ## Tokens by their text -/

theorem run_reads (n : Nat) (r : Reading) (best : Option Nat) (h : Reads c d) :
    Reads c (r.run n best d).2 := by
  induction n generalizing r best d with
  | zero => exact h
  | succ n ih =>
    unfold Reading.run
    split
    -- the cursor is marked if a token is complete
    next best' e hmarked =>
      have he : Reads c e := by
        split at hmarked
        · cases hmarked
          exact h.mark
        · cases hmarked
          exact h
      split
      · exact he.mark
      · split
        · exact he
        · split
          · exact ih _ best' he.skip
          · exact ih _ best' he.take

theorem readToken_reads (mode : Nat) (h : Reads c d) : Reads c (readToken mode d).2 :=
  run_reads _ _ none h

end

/-! ## The next token -/

section

variable {bytes : ByteArray} {c : Cursor}

/-- The token starts and stops between glyphs. -/
def Found.LiesBetween (bytes : ByteArray) (f : Found) : Prop :=
  Between bytes f.start.offset ∧ Between bytes f.stop.offset

theorem scanAt_between {state among : Nat} {advanced : Bool} {f : Found} (h : Stands bytes c)
    (hf : scanAt state among advanced c = some f) : f.LiesBetween bytes := by
  have hstands : Stands bytes (scan (Grammar.state among).tokens c.begin).2 :=
    h.begin.reads (scan_reads _ .refl)
  unfold scanAt at hf
  split at hf
  · next symbol d hscan =>
    rw [hscan] at hstands
    dsimp only at hf
    split at hf
    · cases hf
    · cases hf
      exact hstands.bounds
  · cases hf

/-- A token is found between glyphs, and reading stops between two glyphs. -/
theorem tokenAt_between (state among : Nat) (advanced : Bool) (h : Stands bytes c) :
    (∀ f, (tokenAt state among advanced c).1 = some f → f.LiesBetween bytes) ∧
      Stands bytes (tokenAt state among advanced c).2 := by
  have hstands : Stands bytes (readToken (Grammar.state among).mode c.begin).2 :=
    h.begin.reads (readToken_reads _ .refl)
  unfold tokenAt
  split
  · next f hscan =>
    refine ⟨?_, h⟩
    rintro g ⟨⟩
    exact scanAt_between h hscan
  · split
    · next symbol d hread =>
      rw [hread] at hstands
      refine ⟨?_, hstands⟩
      rintro g ⟨⟩
      exact hstands.bounds
    · next d hread =>
      rw [hread] at hstands
      refine ⟨?_, hstands⟩
      rintro g ⟨⟩

theorem passOver_between (state : Nat) (advanced : Bool) (n : Nat) {stop : Position}
    (hstop : Between bytes stop.offset) (h : Stands bytes c) :
    Between bytes (passOver state advanced n stop c).offset := by
  -- the place moves on by a glyph, or to where reading stopped, which is between glyphs, too
  induction n generalizing stop c with
  | zero =>
    unfold passOver
    exact hstop
  | succ n ih =>
    unfold passOver
    split
    · exact hstop
    · have hp : Between bytes (if c.place.offset = stop.offset then c.next else c.place).offset := by
        split
        · exact h.next
        · exact h.place
      dsimp only
      rw [h.bytes_eq]
      have hstands := (tokenAt_between state 0 advanced (Stands.moveTo hp)).2
      split
      · exact hp
      · next d htoken =>
        rw [htoken] at hstands
        exact ih hp hstands

theorem Found.toTree_within {f : Found} (h : f.LiesBetween bytes) {place : Position}
    (hplace : Between bytes place.offset) (state : Nat) :
    (f.toTree bytes state place).Within (Between bytes) := by
  unfold Found.toTree
  split
  -- a word may be a keyword, but it has the same bounds
  · generalize classifyWord state (bytesText bytes f.start.offset f.stop.offset) = r
    exact .leaf hplace h.1 h.2 rfl rfl
  · exact .leaf hplace h.1 h.2 rfl rfl

/-- The token behind a place between two glyphs lies between glyphs. -/
theorem nextToken_within (state : Nat) (advanced : Bool) {place : Position}
    (hplace : Between bytes place.offset) :
    (nextToken bytes state advanced place).Within (Between bytes) := by
  have h : Stands bytes (Cursor.moveTo bytes place) := .moveTo hplace
  have hpassed : ∀ {d : Cursor}, Stands bytes d → (Tree.token errorSymbol place d.tokenStart
      (passOver state advanced ((Cursor.moveTo bytes place).budget + 1) d.tokenStart d) state
      false).Within (Between bytes) := by
    intro d hd
    exact .leaf hplace hd.tokenStart (passOver_between state advanced _ hd.tokenStart hd) rfl rfl
  have hfirst := tokenAt_between state state advanced h
  have hany := tokenAt_between state 0 advanced h
  unfold nextToken
  dsimp only
  generalize tokenAt state state advanced (Cursor.moveTo bytes place) = r at hfirst
  obtain ⟨_ | f, d⟩ := r
  · dsimp only at hfirst ⊢
    by_cases hstate : state = 0
    · rw [if_pos hstate]
      exact hpassed hfirst.2
    · -- no token of the state stands here, but perhaps another one
      rw [if_neg hstate]
      generalize tokenAt state 0 advanced (Cursor.moveTo bytes place) = r at hany
      obtain ⟨_ | f, d⟩ := r
      · exact hpassed hany.2
      · exact Found.toTree_within (hany.1 f rfl) hplace state
  · exact Found.toTree_within (hfirst.1 f rfl) hplace state

end

end ScriptDeps.Parse
