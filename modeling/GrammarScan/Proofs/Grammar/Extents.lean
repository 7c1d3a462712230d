import GrammarScan.Lexeme.Extent
import GrammarScan.Proofs.Construct.Candidates
import GrammarScan.Proofs.Grammar.Searches

/-!
# Extents are those of the lexemes

`Lexeme.extent` measures a lexeme that has been taken apart.  The main statement,
`Construct.extent?_eq`, says that measuring a construct in the buffer comes to the same as reading
its lexeme character by character and measuring that: it finds no fault, it finds a construct where
there is one, and it finds the same numbers.  All it asks is that the text starts with a character
the construct can start with, which is also the only case in which a lexeme is read.
-/

namespace GrammarScan

open Text

namespace Lexeme

/-- The delimiter in front of what a lexeme encloses. -/
def opener : Lexeme → List Char
  | .lineComment _ _ => ['/', '/']
  | .blockComment _ => ['/', '*']
  | .nonTerminal _ => ['<']
  | .terminal _ => ['"']
  | .whitespace _ | .symbol _ => []

/-- The delimiter behind what a lexeme encloses. -/
def closer : Lexeme → List Char
  | .lineComment _ closed => if closed then ['\n'] else []
  | .blockComment _ => ['*', '/']
  | .nonTerminal _ => ['>']
  | .terminal _ => ['"']
  | .whitespace _ | .symbol _ => []

lemma spelling_eq (lexeme : Lexeme) :
    lexeme.spelling = lexeme.opener ++ (lexeme.payload ++ lexeme.closer) := by
  cases lexeme <;> simp [spelling, opener, payload, closer]

/-- What is wrong with a lexeme, each defect with the number of line feeds before it. -/
def defects : Lexeme → List (Nat × NameDefect)
  | .nonTerminal name => nameDefects 0 name
  | _ => []

/-- The extent of a lexeme. -/
def extent (lexeme : Lexeme) : Extent where
  kind := lexeme.kind
  length := byteLength lexeme.spelling
  crossing := Text.crossing lexeme.spelling
  opener := byteLength lexeme.opener
  closer := byteLength lexeme.closer
  defects := lexeme.defects

end Lexeme

/-- A text with line feeds ends with the line behind the last of them, which alone gives the
column. -/
lemma Text.exists_lastLine {cs : List Char} (h : lineFeeds cs ≠ 0) :
    ∃ lines lastLine, cs = lines ++ '\n' :: lastLine ∧ '\n' ∉ lastLine ∧
      ∀ column, columnAfter column cs = 1 + lastLine.length := by
  have hmem : '\n' ∈ cs := not_not.1 (mt lineFeeds_eq_zero_iff.2 h)
  obtain ⟨line, lines, hreverse, hline⟩ := List.eq_append_cons_of_mem (List.mem_reverse.2 hmem)
  have hcs : cs = lines.reverse ++ '\n' :: line.reverse := by
    rw [← List.reverse_reverse cs, hreverse]
    simp
  have hlast : '\n' ∉ line.reverse := by simpa using hline
  refine ⟨lines.reverse, line.reverse, hcs, hlast, ?_⟩
  intro column
  rw [hcs, columnAfter_append]
  show columnAfter 1 line.reverse = _
  exact columnAfter_of_not_mem hlast 1

namespace Extent

variable {cs rest : List Char}

/-- What a search knows behind a lexeme is its extent. -/
lemma eq_of_past {lexeme : Lexeme} (htext : cs = lexeme.spelling ++ rest) :
    ((Sweep.past lexeme.spelling).crossing cs >>= fun crossing =>
      pure (some ⟨lexeme.kind, byteLength lexeme.spelling, crossing, byteLength lexeme.opener,
        byteLength lexeme.closer, lexeme.defects⟩)) = .ok (some lexeme.extent) := by
  rw [htext, Sweep.crossing_past]
  rfl

lemma isPrefixOf_eq_false {opener : List Char} (h : ¬ opener <+: cs) :
    opener.isPrefixOf cs = false := by
  rwa [Bool.eq_false_iff, ne_eq, List.isPrefixOf_iff_prefix]

/-! ## One construct at a time -/

lemma crossingOf_append (run rest : List Char) :
    crossingOf (run ++ rest) (byteLength run) = .ok (Text.crossing run) := by
  have hcount : (bytes run).countP (isByteOf · '\n') = lineFeeds run :=
    countP_bytes (by decide) run
  unfold crossingOf Text.crossing
  rw [cut_append]
  show (if (bytes run).countP (isByteOf · '\n') = 0 then _ else _) = _
  rw [hcount]
  by_cases hfeeds : lineFeeds run = 0
  · rw [if_pos hfeeds, if_pos hfeeds]
    rfl
  · obtain ⟨lines, lastLine, hrun, hlast, hcolumn⟩ := exists_lastLine hfeeds
    have hindex : lastByteOf? '\n' (bytes run) = some (byteLength lines) := by
      rw [hrun]
      exact lastByteOf?_bytes (by decide) lines hlast
    have hfrom : charsFrom run (byteLength lines + 1) = .ok lastLine := by
      have hbehind := charsFrom_append (lines ++ ['\n']) lastLine
      rw [byteLength_append, List.append_assoc, List.singleton_append, ← hrun] at hbehind
      exact hbehind
    rw [if_neg hfeeds, if_neg hfeeds, hindex, hcolumn]
    show (charsFrom run (byteLength lines + 1) >>= _) = _
    rw [hfrom]
    rfl

lemma mem_whitespace_starters_iff {c : Char} :
    c ∈ Construct.whitespace.starters ↔ c.isWhitespace = true := by
  rw [Lexeme.isWhitespace_iff]
  simp only [Construct.starters, List.mem_cons, List.not_mem_nil, or_false]
  tauto

lemma whitespace?_eq {c : Char} (h : Construct.whitespace.startsWith c) (cs : List Char) :
    whitespace? (c :: cs) = .ok ((Lexeme.readWhitespace? (c :: cs)).map Lexeme.extent) := by
  have hstarters : ∀ d ∈ Construct.whitespace.starters, d.utf8Size = 1 := by
    simp [Construct.starters, Char.utf8Size]
  have hblank : c.isWhitespace = true :=
    mem_whitespace_starters_iff.1 (by simpa [Construct.startsWith] using h)
  have hread : Lexeme.readWhitespace? (c :: cs) =
      some (.whitespace (c :: cs.takeWhile Char.isWhitespace)) := by
    unfold Lexeme.readWhitespace?
    rw [List.takeWhile_cons_of_pos hblank]
  have hsplit : (c :: cs.takeWhile Char.isWhitespace) ++ cs.dropWhile Char.isWhitespace =
      c :: cs := by
    rw [List.cons_append, List.takeWhile_append_dropWhile]
  have hrun : ∀ d ∈ c :: cs.takeWhile Char.isWhitespace, d ∈ Construct.whitespace.starters := by
    intro d hd
    rw [mem_whitespace_starters_iff]
    rcases List.mem_cons.1 hd with rfl | hd
    · exact hblank
    · exact List.mem_takeWhile_imp hd
  have hrest : ∀ d ∈ (cs.dropWhile Char.isWhitespace).head?, d ∉ Construct.whitespace.starters := by
    intro d hd
    have hhead := List.head?_dropWhile_not Char.isWhitespace cs
    rw [Option.mem_def.1 hd] at hhead
    rw [mem_whitespace_starters_iff]
    simpa using hhead
  have hbytes := takeWhile_bytes hstarters hrun hrest
  rw [hread, Option.map_some, ← hsplit]
  unfold whitespace?
  rw [hbytes]
  dsimp only
  rw [length_bytes, crossingOf_append]
  rfl

/-- A comment crosses the line feed that closes it and no other, and ends at the start of a line. -/
lemma crossing_lineComment {body : List Char} (hbody : '\n' ∉ body) (closed : Bool) :
    Text.crossing (Lexeme.lineComment body closed).spelling =
      if closed then some (1, 1) else none := by
  have hfront : lineFeeds ('/' :: '/' :: body) = 0 :=
    lineFeeds_eq_zero_iff.2 (by simpa using hbody)
  unfold Text.crossing
  cases closed with
  | true =>
    have hspelling : (Lexeme.lineComment body true).spelling = '/' :: '/' :: body ++ ['\n'] := rfl
    rw [hspelling, lineFeeds_append, hfront, columnAfter_append]
    rfl
  | false =>
    have hspelling : (Lexeme.lineComment body false).spelling = '/' :: '/' :: body :=
      List.append_nil _
    rw [hspelling, if_pos hfront]
    rfl

lemma lineComment?_slashes (cs : List Char) :
    lineComment? ('/' :: '/' :: cs) =
      .ok ((Lexeme.readLineComment? ('/' :: '/' :: cs)).map Lexeme.extent) := by
  have hread : Lexeme.readLineComment? ('/' :: '/' :: cs) =
      some (.lineComment (cs.takeWhile (· ≠ '\n')) (decide ('\n' ∈ cs))) := rfl
  have hbytes : bytesFrom ('/' :: '/' :: cs) 2 = .ok (bytes cs) :=
    bytesFrom_append ['/', '/'] cs
  rw [hread, Option.map_some]
  unfold lineComment? Lexeme.extent
  rw [hbytes]
  dsimp only [bind, Except.bind]
  by_cases hfeed : '\n' ∈ cs
  · obtain ⟨body, rest, rfl, hbody⟩ := List.eq_append_cons_of_mem hfeed
    have hfirst : firstByteOf? ['\n'] (bytes (body ++ '\n' :: rest)) = some (byteLength body) := by
      apply firstByteOf?_bytes (by simp [Char.utf8Size])
      · intro d hd hmem
        obtain rfl := List.mem_singleton.1 hmem
        exact hbody hd
      · exact List.mem_singleton_self _
    have hlength : 2 + byteLength body + 1 =
        byteLength (Lexeme.lineComment body true).spelling := by
      show _ = byteLength (['/', '/'] ++ body ++ ['\n'])
      rw [byteLength_append, byteLength_append]
      rfl
    rw [hfirst, Text.takeWhile_ne_append hbody, decide_eq_true hfeed, crossing_lineComment hbody,
      ← hlength]
    rfl
  · have hfirst : firstByteOf? ['\n'] (bytes cs) = none := by
      apply firstByteOf?_of_forall_not_mem (by simp [Char.utf8Size])
      intro d hd hmem
      obtain rfl := List.mem_singleton.1 hmem
      exact hfeed hd
    have hspelling : (Lexeme.lineComment cs false).spelling = '/' :: '/' :: cs :=
      List.append_nil _
    rw [hfirst, Text.takeWhile_ne_eq_self hfeed, decide_eq_false hfeed,
      crossing_lineComment hfeed, hspelling]
    rfl

lemma lineComment?_eq (cs : List Char) :
    lineComment? cs = .ok ((Lexeme.readLineComment? cs).map Lexeme.extent) := by
  by_cases hopen : ['/', '/'] <+: cs
  · obtain ⟨rest, rfl⟩ := hopen
    exact lineComment?_slashes rest
  · have hread : Lexeme.readLineComment? cs = none := by
      unfold Lexeme.readLineComment?
      split
      · exact absurd ⟨_, rfl⟩ hopen
      · rfl
    unfold lineComment?
    rw [isPrefixOf_eq_false hopen, hread]
    rfl

lemma blockComment?_eq (cs : List Char) :
    blockComment? cs = .ok ((Lexeme.readBlockComment? cs).map Lexeme.extent) := by
  by_cases hopen : ['/', '*'] <+: cs
  · obtain ⟨cs, rfl⟩ := hopen
    have hread : Lexeme.readBlockComment? (['/', '*'] ++ cs) =
        (Lexeme.commentBody? cs).map .blockComment := rfl
    have hrun : Search.comment.run (['/', '*'] ++ cs) (.startAt 2) =
        .ok ((Lexeme.commentBody? cs).map fun body => .past (['/', '*'] ++ (body ++ ['*', '/']))) :=
      Search.run_eq Search.comment_finds ['/', '*'] cs
    rw [hread]
    unfold blockComment?
    rw [hrun]
    cases hbody : Lexeme.commentBody? cs with
    | none => rfl
    | some body =>
      obtain ⟨rest, rfl, -⟩ := (Lexeme.commentBody?_eq_some_iff.1 hbody).exists_append
      have htext : ['/', '*'] ++ (body ++ '*' :: '/' :: rest) =
          (Lexeme.blockComment body).spelling ++ rest := by
        simp [Lexeme.spelling]
      exact eq_of_past htext
  · have hread : Lexeme.readBlockComment? cs = none := by
      unfold Lexeme.readBlockComment?
      split
      · exact absurd ⟨_, rfl⟩ hopen
      · rfl
    unfold blockComment?
    rw [isPrefixOf_eq_false hopen, hread]
    rfl

/-- Behind the opening bracket and a character that is no digit, the name reaches up to the first
closing bracket. -/
lemma nonTerminal?_eq_of_not_digit {c : Char} (hdigit : c.isDigit = false) (cs : List Char) :
    nonTerminal? ('<' :: c :: cs) =
      .ok ((Lexeme.readNonTerminal? ('<' :: c :: cs)).map Lexeme.extent) := by
  have hread : Lexeme.readNonTerminal? ('<' :: c :: cs) =
      if c.isDigit then none
      else if '>' ∈ c :: cs then some (.nonTerminal ((c :: cs).takeWhile (· ≠ '>')))
      else none := rfl
  have hname : charsFrom ('<' :: c :: cs) 1 = .ok (c :: cs) := charsFrom_append ['<'] (c :: cs)
  have hplain : ¬ c.isDigit = true := by simp [hdigit]
  rw [hread, if_neg hplain]
  unfold nonTerminal?
  rw [hname]
  show (if c.isDigit then _ else _) = _
  have hstart : Sweep.startAt 1 = .past ['<'] := rfl
  rw [if_neg hplain, hstart]
  by_cases hclose : '>' ∈ c :: cs
  · obtain ⟨name, rest, htext, hfree⟩ := List.eq_append_cons_of_mem hclose
    have hspelling : '<' :: (name ++ '>' :: rest) = (Lexeme.nonTerminal name).spelling ++ rest := by
      simp [Lexeme.spelling]
    rw [if_pos hclose, htext, Text.takeWhile_ne_append hfree, Sweep.throughName_append _ hfree]
    exact eq_of_past hspelling
  · rw [if_neg hclose, Sweep.throughName_eq_none hclose]
    rfl

lemma nonTerminal?_eq (cs : List Char) :
    nonTerminal? ('<' :: cs) = .ok ((Lexeme.readNonTerminal? ('<' :: cs)).map Lexeme.extent) := by
  cases cs with
  | nil => rfl
  | cons c cs =>
    cases hdigit : c.isDigit with
    | false => exact nonTerminal?_eq_of_not_digit hdigit cs
    | true =>
      have hname : charsFrom ('<' :: c :: cs) 1 = .ok (c :: cs) :=
        charsFrom_append ['<'] (c :: cs)
      have hread : Lexeme.readNonTerminal? ('<' :: c :: cs) = none := if_pos hdigit
      unfold nonTerminal?
      rw [hname, hread]
      exact if_pos hdigit

lemma terminal?_eq (cs : List Char) :
    terminal? ('"' :: cs) = .ok ((Lexeme.readTerminal? ('"' :: cs)).map Lexeme.extent) := by
  have hread : Lexeme.readTerminal? ('"' :: cs) = (Lexeme.terminalBody? cs).map .terminal := rfl
  have hrun : Search.text.run ('"' :: cs) (.startAt 1) =
      .ok ((Lexeme.terminalBody? cs).map fun body => .past (['"'] ++ (body ++ ['"']))) :=
    Search.run_eq Search.text_finds ['"'] cs
  rw [hread]
  unfold terminal?
  rw [hrun]
  cases hbody : Lexeme.terminalBody? cs with
  | none => rfl
  | some body =>
    obtain ⟨-, rest, rfl⟩ := Lexeme.terminalBody?_eq_some_iff.1 hbody
    have htext : '"' :: (body ++ '"' :: rest) = (Lexeme.terminal body).spelling ++ rest := by
      simp [Lexeme.spelling]
    exact eq_of_past htext

lemma bracket?_eq {bracket : Bracket} {c : Char} (h : (Construct.bracket bracket).startsWith c)
    (cs : List Char) :
    bracket? bracket (c :: cs) =
      .ok ((Lexeme.readBracket? bracket (c :: cs)).map Lexeme.extent) := by
  have hcases : c = bracket.opener ∨ c = bracket.closer := by
    simpa [Construct.startsWith, Construct.starters] using h
  rcases hcases with rfl | rfl
  · cases bracket with
    | grouping =>
      cases cs with
      | nil => rfl
      | cons d cs =>
        obtain ⟨byte, hown, later, hbytes⟩ := exists_bytes_cons d cs
        have hstar := isByteOf_iff_of_mem (by decide : '*'.utf8Size = 1) hown
        have hsecond : (bytes ('(' :: d :: cs))[1]? = some byte := by
          rw [bytes_cons, hbytes]
          rfl
        unfold bracket?
        show (if ((bytes ('(' :: d :: cs))[1]?).any (isByteOf · '*') then _ else _) = _
        rw [hsecond]
        by_cases hd : d = '*'
        · subst hd
          exact if_pos (hstar.2 rfl)
        · have hends : (Lexeme.symbol (.opening .grouping)).EndsBefore (d :: cs) := by
            show some d ≠ some '*'
            simpa using hd
          have hread := Lexeme.readBracket?_spelling_opening hends
          rw [hread]
          exact if_neg (mt hstar.1 hd)
    | optional => rfl
    | repetition => rfl
  · cases bracket <;> rfl

lemma definition?_eq {c : Char} (h : Construct.definition.startsWith c) (cs : List Char) :
    definition? (c :: cs) = (Lexeme.readDefinition? (c :: cs)).map Lexeme.extent := by
  have hcases : c = ':' ∨ c = ';' := by
    simpa [Construct.startsWith, Construct.starters] using h
  rcases hcases with rfl | rfl
  · by_cases hopen : [':', ':', '='] <+: ':' :: cs
    · obtain ⟨rest, htext⟩ := hopen
      rw [← htext]
      rfl
    · have hread : Lexeme.readDefinition? (':' :: cs) = none := by
        unfold Lexeme.readDefinition?
        split
        · rename_i heq
          simp at heq
        · rename_i heq
          rw [heq] at hopen
          exact absurd ⟨_, rfl⟩ hopen
        · rfl
      rw [hread]
      show (if [':', ':', '='].isPrefixOf (':' :: cs) then _ else none) = _
      rw [isPrefixOf_eq_false hopen]
      rfl
  · rfl

end Extent

/-- Where a construct can start, measuring it in the buffer comes to the same as reading its
lexeme. -/
theorem Construct.extent?_eq {construct : Construct} {c : Char} (h : construct.startsWith c)
    (cs : List Char) :
    construct.extent? (c :: cs) = .ok ((construct.read? (c :: cs)).map Lexeme.extent) := by
  cases construct with
  | whitespace => exact Extent.whitespace?_eq h cs
  | lineComment => exact Extent.lineComment?_eq (c :: cs)
  | blockComment => exact Extent.blockComment?_eq (c :: cs)
  | nonTerminal =>
    obtain rfl : c = '<' := by simpa [startsWith, starters] using h
    exact Extent.nonTerminal?_eq cs
  | terminal =>
    obtain rfl : c = '"' := by simpa [startsWith, starters] using h
    exact Extent.terminal?_eq cs
  | bracket bracket => exact Extent.bracket?_eq h cs
  | definition => exact congrArg Except.ok (Extent.definition?_eq h cs)
  | alternative =>
    obtain rfl : c = '|' := by simpa [startsWith, starters] using h
    rfl

end GrammarScan
