import GrammarScan.Lexeme.Search
import GrammarScan.Lexeme.Reader
import GrammarScan.Proofs.Cursor.Motion
import GrammarScan.Proofs.Grammar.Bodies
import GrammarScan.Proofs.Text.Buffer

/-!
# Searches find the ends of lexemes

`Sweep.past` is how far a search has come that has passed a piece of text and counted its line
feeds.  `Search.Finds` compares a search with a reader of characters, one turn at a time: wherever
the search stands, its next turn finds no fault and does what the reader does with the text in front
of it.  From this the whole search finds what the reader reads (`Search.run_eq`).

The search through a comment finds what `commentBody?` reads, and the one through a quoted text what
`terminalBody?` reads (`Search.comment_finds`, `Search.text_finds`).  The search through a name stops
behind the first closing bracket and has noted all defects before it (`Sweep.throughName_append`).
-/

namespace GrammarScan

open Text

/-! ## The text behind a search -/

/-- How far a search has come that has passed a piece of text. -/
def Sweep.past (before : List Char) : Sweep :=
  ⟨byteLength before, lineFeeds before, byteLength (before.rdropWhile (· ≠ '\n'))⟩

/-- The line feeds in a text and the column behind it, where there are any. -/
def Text.crossing (cs : List Char) : Option (Nat × Nat) :=
  if lineFeeds cs = 0 then none else some (lineFeeds cs, columnAfter 1 cs)

lemma Text.byteLength_append_concat (before stretch : List Char) (c : Char) :
    byteLength (before ++ (stretch ++ [c])) = byteLength (before ++ stretch) + c.utf8Size := by
  simp only [byteLength_append, byteLength_cons, byteLength_nil, Nat.add_assoc, Nat.add_zero]

namespace Sweep

@[simp] lemma past_offset (before : List Char) : (past before).offset = byteLength before := rfl

/-- A search passes a stretch without line feeds and one more character by going behind them and,
if that character is a line feed, by noting it. -/
lemma past_append (before : List Char) {stretch : List Char} (hstretch : '\n' ∉ stretch) (c : Char) :
    past (before ++ (stretch ++ [c])) =
      let next := (past before).goTo (byteLength (before ++ (stretch ++ [c])))
      if c = '\n' then next.passFeed else next := by
  have hfeeds : lineFeeds (before ++ (stretch ++ [c])) =
      lineFeeds before + if c = '\n' then 1 else 0 := by
    rw [lineFeeds_append, lineFeeds_append, lineFeeds_eq_zero_iff.2 hstretch, lineFeeds_cons]
    simp
  by_cases hc : c = '\n'
  · have hstart : (before ++ (stretch ++ [c])).rdropWhile (· ≠ '\n') = before ++ (stretch ++ [c]) := by
      rw [← List.append_assoc, List.rdropWhile_concat_neg _ _ _ (by simpa using hc)]
    simp only [past, hstart, hfeeds, if_pos hc, passFeed, goTo]
  · have hpassed : ∀ d ∈ (stretch ++ [c]).reverse, (d ≠ '\n') := by
      intro d hd
      rw [List.mem_reverse, List.mem_append, List.mem_singleton] at hd
      rintro rfl
      rcases hd with hd | rfl
      · exact hstretch hd
      · exact hc rfl
    have hstart : (before ++ (stretch ++ [c])).rdropWhile (· ≠ '\n') =
        before.rdropWhile (· ≠ '\n') := by
      unfold List.rdropWhile
      rw [List.reverse_append, List.dropWhile_append_of_pos (by simpa using hpassed)]
    simp only [past, hstart, hfeeds, if_neg hc, goTo, Nat.add_zero]

/-- A search knows the line feeds it has passed and the column it has come to. -/
lemma crossing_past (before after : List Char) :
    (past before).crossing (before ++ after) = .ok (Text.crossing before) := by
  unfold crossing Text.crossing
  by_cases hfeeds : lineFeeds before = 0
  · rw [if_pos hfeeds]
    exact if_pos hfeeds
  · have hline : before.rdropWhile (· ≠ '\n') ++ before.rtakeWhile (· ≠ '\n') = before :=
      List.rdropWhile_append_rtakeWhile
    have hbetween := charsBetween_append (before.rdropWhile (· ≠ '\n'))
      (before.rtakeWhile (· ≠ '\n')) after
    rw [← List.append_assoc, hline] at hbetween
    rw [if_neg hfeeds, columnAfter_one]
    refine (if_neg hfeeds).trans ?_
    show (charsBetween (before ++ after) (byteLength (before.rdropWhile (· ≠ '\n')))
      (byteLength before) >>= _) = _
    rw [hbetween]
    rfl

end Sweep

/-! ## Searches that find what a reader reads -/

/-- What the turn of a search has to come to that stands between `before` and `after`, if the search
is to find what `body?` reads and the delimiter `closer` behind it. -/
inductive Turn.Follows (body? : List Char → Option (List Char)) (closer before after : List Char) :
    Turn → Prop
  | refuse (h : body? after = none) : Follows body? closer before after .refuse
  | close {body : List Char} (h : body? after = some body) :
      Follows body? closer before after (.close (.past (before ++ (body ++ closer))))
  | goOn {piece left : List Char} (hafter : after = piece ++ left) (hpiece : piece ≠ [])
      (h : body? after = (body? left).map (piece ++ ·)) :
      Follows body? closer before after (.goOn (.past (before ++ piece)))

namespace Search

variable {search : Search} {body? : List Char → Option (List Char)} {closer : List Char}

/-- Every turn of the search does what the reader does. -/
def Finds (search : Search) (body? : List Char → Option (List Char)) (closer : List Char) : Prop :=
  ∀ before after, ∃ turn, search.turn (before ++ after) (.past before) = .ok turn ∧
    turn.Follows body? closer before after

lemma run_of_turn {cs : List Char} {sweep : Sweep} {turn : Turn}
    (h : search.turn cs sweep = .ok turn) :
    search.run cs sweep =
      match turn with
      | .refuse => .ok none
      | .close last => .ok (some last)
      | .goOn next => search.run cs next := by
  conv_lhs => unfold run
  split <;> rename_i hturn <;> rw [h] at hturn <;> cases hturn <;> rfl

/-- A search whose turns do what a reader does finds what it reads. -/
theorem run_eq (h : search.Finds body? closer) (before after : List Char) :
    search.run (before ++ after) (.past before) =
      .ok ((body? after).map fun body => .past (before ++ (body ++ closer))) := by
  -- each turn leaves less in front of the search
  induction hlength : after.length using Nat.strong_induction_on generalizing before after with
  | _ length ih =>
    obtain ⟨turn, hturn, hfollows⟩ := h before after
    rw [run_of_turn hturn]
    cases hfollows with
    | refuse hbody => rw [hbody, Option.map_none]
    | close hbody => rw [hbody, Option.map_some]
    | @goOn piece left hafter hpiece hbody =>
      subst hafter
      have hshorter : left.length < length := by
        have hpos := List.length_pos_iff.2 hpiece
        rw [← hlength, List.length_append]
        omega
      have hleft := ih left.length hshorter (before ++ piece) left rfl
      rw [List.append_assoc] at hleft
      show search.run (before ++ (piece ++ left)) (.past (before ++ piece)) = _
      rw [hleft, hbody, Option.map_map]
      simp only [Function.comp_def, List.append_assoc]

end Search

/-! ## What the readers pass -/

/-- A text has a first character of interest, or none at all. -/
lemma Text.exists_first (wanted after : List Char) :
    (∀ c ∈ after, c ∉ wanted) ∨
      ∃ stretch c left, after = stretch ++ c :: left ∧ (∀ d ∈ stretch, d ∉ wanted) ∧
        c ∈ wanted := by
  induction after with
  | nil => exact .inl fun c hc => absurd hc List.not_mem_nil
  | cons c after ih =>
    by_cases hc : c ∈ wanted
    · exact .inr ⟨[], c, after, rfl, fun d hd => absurd hd List.not_mem_nil, hc⟩
    · rcases ih with hnone | ⟨stretch, d, left, rfl, hstretch, hd⟩
      · exact .inl (List.forall_mem_cons.2 ⟨hc, hnone⟩)
      · exact .inr ⟨c :: stretch, d, left, rfl, List.forall_mem_cons.2 ⟨hc, hstretch⟩, hd⟩

namespace Lexeme

variable {stretch : List Char}

/-- A comment is read on behind a stretch without slashes and backslashes, unless an asterisk at its
end and a slash behind it close the comment. -/
lemma commentBody?_stretch_append (hstretch : ∀ d ∈ stretch, d ∉ ['/', '\\', '\n']) {rest : List Char}
    (hclose : stretch.getLast? = some '*' → rest.head? ≠ some '/') :
    commentBody? (stretch ++ rest) = (commentBody? rest).map (stretch ++ ·) := by
  induction stretch with
  | nil => simp
  | cons c stretch ih =>
    obtain ⟨hc, hlater⟩ := List.forall_mem_cons.1 hstretch
    have hescape : c ≠ '\\' := by
      rintro rfl
      simp at hc
    have hplain : c = '*' → (stretch ++ rest).head? ≠ some '/' := by
      rintro rfl
      cases stretch with
      | nil => exact hclose rfl
      | cons d stretch =>
        intro hhead
        obtain rfl : d = '/' := by simpa using hhead
        simpa using hlater '/'
    have hlast : stretch.getLast? = some '*' → rest.head? ≠ some '/' := by
      intro hstar
      apply hclose
      cases stretch with
      | nil => simp at hstar
      | cons d stretch => simpa using hstar
    rw [List.cons_append, commentBody?_cons hescape hplain, ih hlater hlast, Option.map_map]
    rfl

/-- A quoted text is read on behind a stretch of plain characters. -/
lemma terminalBody?_stretch_append (hstretch : ∀ d ∈ stretch, d ∉ ['"', '\n', '\\'])
    (rest : List Char) :
    terminalBody? (stretch ++ rest) = (terminalBody? rest).map (stretch ++ ·) := by
  induction stretch with
  | nil => simp
  | cons c stretch ih =>
    obtain ⟨hc, hlater⟩ := List.forall_mem_cons.1 hstretch
    obtain ⟨hquote, hfeed, hescape⟩ : c ≠ '"' ∧ c ≠ '\n' ∧ c ≠ '\\' := by simpa using hc
    rw [List.cons_append, terminalBody?_cons hquote hescape hfeed, ih hlater,
      Option.map_map]
    rfl

end Lexeme

/-! ## The turns -/

namespace Turn

variable {wanted before stretch left : List Char}

lemma seek_of_forall_not_mem (before : List Char) (hwanted : ∀ d ∈ wanted, d.utf8Size = 1)
    {after : List Char} (h : ∀ c ∈ after, c ∉ wanted) :
    seek wanted (before ++ after) (.past before) = .ok none := by
  unfold seek
  rw [Sweep.past_offset, bytesFrom_append]
  dsimp only [bind, Except.bind]
  rw [firstByteOf?_of_forall_not_mem hwanted h]
  rfl

/-- A search finds the first character of interest by its byte. -/
lemma seek_append (before left : List Char) (hwanted : ∀ d ∈ wanted, d.utf8Size = 1)
    (hstretch : ∀ d ∈ stretch, d ∉ wanted) {c : Char} (hc : c ∈ wanted) :
    seek wanted (before ++ (stretch ++ c :: left)) (.past before) =
      .ok (some (byteLength (before ++ stretch), c.toUInt8)) := by
  obtain ⟨byte, hown, hbyte⟩ := exists_byteAt_append (before ++ stretch) c left c.utf8Size_pos
  rw [utf8EncodeChar_of_ascii (hwanted c hc), List.mem_singleton] at hown
  rw [List.append_assoc, Nat.add_zero, byteLength_append, hown] at hbyte
  unfold seek
  rw [Sweep.past_offset, bytesFrom_append]
  dsimp only [bind, Except.bind]
  rw [firstByteOf?_bytes hwanted hstretch hc]
  show (byteAt _ _ >>= _) = _
  rw [hbyte, byteLength_append]
  rfl

/-- A backslash is passed along with the character behind it. -/
lemma escape_follows {body? : List Char → Option (List Char)} {closer : List Char}
    (hfeed : '\n' ∉ stretch) (hlone : body? ['\\'] = none)
    (hescape : ∀ c text, body? ('\\' :: c :: text) = (body? text).map ('\\' :: c :: ·))
    (hstretch : ∀ text, body? (stretch ++ '\\' :: text) =
      (body? ('\\' :: text)).map (stretch ++ ·)) :
    ∃ turn, escape (before ++ (stretch ++ '\\' :: left)) (.past before)
        (byteLength (before ++ stretch)) = .ok turn ∧
      turn.Follows body? closer before (stretch ++ '\\' :: left) := by
  have hbehind : charsFrom (before ++ (stretch ++ '\\' :: left)) (byteLength (before ++ stretch) + 1) =
      .ok left := by
    have hlength : byteLength (before ++ (stretch ++ ['\\'])) = byteLength (before ++ stretch) + 1 :=
      byteLength_append_concat before stretch '\\'
    have hfrom := charsFrom_append (before ++ (stretch ++ ['\\'])) left
    rw [hlength] at hfrom
    simpa using hfrom
  unfold escape
  rw [hbehind]
  cases left with
  | nil =>
    refine ⟨.refuse, rfl, .refuse ?_⟩
    rw [hstretch, hlone, Option.map_none]
  | cons c left =>
    have hpiece : stretch ++ '\\' :: c :: left = (stretch ++ ['\\'] ++ [c]) ++ left := by simp
    have hplain : '\n' ∉ stretch ++ ['\\'] := by simpa using hfeed
    have hoffset : byteLength (before ++ (stretch ++ ['\\'] ++ [c])) =
        byteLength (before ++ stretch) + 1 + c.utf8Size := by
      rw [byteLength_append_concat, byteLength_append_concat]
      rfl
    have hpast := Sweep.past_append before hplain c
    rw [hoffset] at hpast
    refine ⟨_, rfl, ?_⟩
    rw [← hpast]
    refine .goOn hpiece (by simp) ?_
    rw [hstretch, hescape, Option.map_map]
    simp only [Function.comp_def, List.append_assoc, List.cons_append, List.nil_append]

/-! ### Comments between delimiters -/

/-- A search goes on behind a stretch and a plain character that does not close the comment. -/
lemma follows_goOn_comment (before left : List Char)
    (hstretch : ∀ d ∈ stretch, d ∉ ['/', '\\', '\n']) {c : Char} (hescape : c ≠ '\\') (hstar : c ≠ '*')
    (hclose : stretch.getLast? = some '*' → c ≠ '/') :
    Turn.Follows Lexeme.commentBody? ['*', '/'] before (stretch ++ c :: left)
      (.goOn (.past (before ++ (stretch ++ [c])))) := by
  have hread : Lexeme.commentBody? (stretch ++ c :: left) =
      (Lexeme.commentBody? (c :: left)).map (stretch ++ ·) :=
    Lexeme.commentBody?_stretch_append hstretch (by simpa using hclose)
  have hplain : c = '*' → left.head? ≠ some '/' := fun h => absurd h hstar
  have hpiece : stretch ++ c :: left = (stretch ++ [c]) ++ left := by simp
  refine .goOn hpiece (by simp) ?_
  rw [hread, Lexeme.commentBody?_cons hescape hplain, Option.map_map]
  simp only [Function.comp_def, List.append_assoc, List.singleton_append]

/-- A slash is the end of a comment if the stretch before it ends with an asterisk. -/
lemma comment_slash (before left : List Char) (hstretch : ∀ d ∈ stretch, d ∉ ['/', '\\', '\n']) :
    comment (before ++ (stretch ++ '/' :: left)) (.past before) =
      .ok (if stretch.getLast? = some '*' then .close (.past (before ++ (stretch ++ ['/'])))
        else .goOn (.past (before ++ (stretch ++ ['/'])))) := by
  have hfeed : '\n' ∉ stretch := fun hmem => hstretch '\n' hmem (by simp)
  have hpast : Sweep.past (before ++ (stretch ++ ['/'])) =
      (Sweep.past before).goTo (byteLength (before ++ stretch) + 1) := by
    rw [Sweep.past_append before hfeed, byteLength_append_concat]
    rfl
  rw [hpast]
  unfold comment
  rw [seek_append before left (by simp [Char.utf8Size]) hstretch (by simp)]
  -- an asterisk in front of the stretch was taken by a backslash, so only one in it counts
  rcases List.eq_nil_or_concat' stretch with rfl | ⟨stretch, d, rfl⟩
  · show (if byteLength before < byteLength (before ++ []) then _ else _) = _
    rw [List.append_nil, if_neg (Nat.lt_irrefl _)]
    rfl
  · have hlt : byteLength before < byteLength (before ++ (stretch ++ [d])) := by
      have hpos := d.utf8Size_pos
      rw [byteLength_append_concat, byteLength_append]
      omega
    have htext : before ++ (stretch ++ [d] ++ '/' :: left) =
        (before ++ stretch) ++ d :: '/' :: left := by
      simp
    obtain ⟨previous, hown, hprevious⟩ := exists_byteAt_before (before ++ stretch) d ('/' :: left)
    rw [← htext, List.append_assoc before stretch [d]] at hprevious
    show (if byteLength before < byteLength (before ++ (stretch ++ [d])) then
      byteAt (before ++ (stretch ++ [d] ++ '/' :: left))
        (byteLength (before ++ (stretch ++ [d])) - 1) >>= _ else _) = _
    rw [if_pos hlt, hprevious]
    show (if isByteOf previous '*' then _ else _) = _
    have hstar := isByteOf_iff_of_mem (by decide : '*'.utf8Size = 1) hown
    by_cases hd : d = '*'
    · rw [if_pos (hstar.2 hd), if_pos (by simpa using hd)]
      rfl
    · rw [if_neg (mt hstar.1 hd), if_neg (by simpa using hd)]
      rfl

/-- The search through a comment finds what the reader of its characters reads. -/
theorem comment_follows (before after : List Char) :
    ∃ turn, comment (before ++ after) (.past before) = .ok turn ∧
      turn.Follows Lexeme.commentBody? ['*', '/'] before after := by
  have hwanted : ∀ d ∈ ['/', '\\', '\n'], d.utf8Size = 1 := by simp [Char.utf8Size]
  rcases exists_first ['/', '\\', '\n'] after with hnone | ⟨stretch, c, left, rfl, hstretch, hc⟩
  · refine ⟨.refuse, ?_, .refuse ?_⟩
    · unfold comment
      rw [seek_of_forall_not_mem before hwanted hnone]
      rfl
    · have hread : Lexeme.commentBody? (after ++ []) = (Lexeme.commentBody? []).map (after ++ ·) :=
        Lexeme.commentBody?_stretch_append hnone (by simp)
      simpa [Lexeme.commentBody?] using hread
  · have hfeed : '\n' ∉ stretch := fun hmem => hstretch '\n' hmem (by simp)
    have hseek := seek_append before left hwanted hstretch hc
    have hcases : c = '/' ∨ c = '\\' ∨ c = '\n' := by simpa using hc
    rcases hcases with rfl | rfl | rfl
    · refine ⟨_, comment_slash before left hstretch, ?_⟩
      split_ifs with hstar
      · obtain ⟨body, rfl⟩ := List.getLast?_eq_some_iff.1 hstar
        have hbody : ∀ d ∈ body, d ∉ ['/', '\\', '\n'] := fun d hd =>
          hstretch d (List.mem_append_left _ hd)
        have hread : Lexeme.commentBody? (body ++ '*' :: '/' :: left) =
            (Lexeme.commentBody? ('*' :: '/' :: left)).map (body ++ ·) :=
          Lexeme.commentBody?_stretch_append hbody (by simp)
        rw [List.append_assoc body, List.append_assoc body]
        refine .close ?_
        rw [List.singleton_append, hread]
        simp [Lexeme.commentBody?]
      · exact follows_goOn_comment before left hstretch (by decide) (by decide)
          fun hlast => absurd hlast hstar
    · have hturn : comment (before ++ (stretch ++ '\\' :: left)) (.past before) =
          escape (before ++ (stretch ++ '\\' :: left)) (.past before)
            (byteLength (before ++ stretch)) := by
        unfold comment
        rw [hseek]
        rfl
      rw [hturn]
      apply escape_follows hfeed rfl
      · intro c text
        rfl
      · intro text
        exact Lexeme.commentBody?_stretch_append hstretch (by simp)
    · have hpast := Sweep.past_append before hfeed '\n'
      refine ⟨_, ?_, follows_goOn_comment before left hstretch (by decide) (by decide)
        fun _ => by decide⟩
      rw [hpast, byteLength_append_concat]
      unfold comment
      rw [hseek]
      rfl

/-! ### Quoted texts -/

/-- The search through a quoted text finds what the reader of its characters reads. -/
theorem text_follows (before after : List Char) :
    ∃ turn, text (before ++ after) (.past before) = .ok turn ∧
      turn.Follows Lexeme.terminalBody? ['"'] before after := by
  have hwanted : ∀ d ∈ ['"', '\n', '\\'], d.utf8Size = 1 := by simp [Char.utf8Size]
  rcases exists_first ['"', '\n', '\\'] after with hnone | ⟨stretch, c, left, rfl, hstretch, hc⟩
  · refine ⟨.refuse, ?_, .refuse ?_⟩
    · unfold text
      rw [seek_of_forall_not_mem before hwanted hnone]
      rfl
    · have hread := Lexeme.terminalBody?_stretch_append hnone []
      simpa [Lexeme.terminalBody?] using hread
  · have hfeed : '\n' ∉ stretch := fun hmem => hstretch '\n' hmem (by simp)
    have hseek := seek_append before left hwanted hstretch hc
    have hread := Lexeme.terminalBody?_stretch_append hstretch (c :: left)
    have hcases : c = '"' ∨ c = '\n' ∨ c = '\\' := by simpa using hc
    rcases hcases with rfl | rfl | rfl
    · have hpast := Sweep.past_append before hfeed '"'
      refine ⟨.close (.past (before ++ (stretch ++ ['"']))), ?_, .close ?_⟩
      · rw [hpast, byteLength_append_concat]
        unfold text
        rw [hseek]
        rfl
      · rw [hread]
        simp [Lexeme.terminalBody?]
    · refine ⟨.refuse, ?_, .refuse ?_⟩
      · unfold text
        rw [hseek]
        rfl
      · rw [hread]
        simp [Lexeme.terminalBody?]
    · have hturn : text (before ++ (stretch ++ '\\' :: left)) (.past before) =
          escape (before ++ (stretch ++ '\\' :: left)) (.past before)
            (byteLength (before ++ stretch)) := by
        unfold text
        rw [hseek]
        rfl
      rw [hturn]
      apply escape_follows hfeed rfl
      · intro c text
        rfl
      · intro text
        exact Lexeme.terminalBody?_stretch_append hstretch _

end Turn

lemma Search.comment_finds : Search.comment.Finds Lexeme.commentBody? ['*', '/'] :=
  Turn.comment_follows

lemma Search.text_finds : Search.text.Finds Lexeme.terminalBody? ['"'] :=
  Turn.text_follows

/-! ## The search through a name -/

/-- The defects of a name, each with the number of line feeds before it, of which so many stand in
front of the name. -/
def nameDefects (feeds : Nat) : List Char → List (Nat × NameDefect)
  | [] => []
  | c :: cs =>
    let later := nameDefects (if c = '\n' then feeds + 1 else feeds) cs
    match nameDefect? c with
    | some defect => (feeds, defect) :: later
    | none => later

/-- What is wrong with a name is known from its defects. -/
lemma nameDiagnostics_eq_map (file : FileName) (line feeds : Nat) (name : List Char) :
    nameDiagnostics file (line + feeds) name = (nameDefects feeds name).map fun defect =>
      ⟨file, line + defect.1, defect.2.message, .recoverable⟩ := by
  induction name generalizing feeds with
  | nil => rfl
  | cons c name ih =>
    have hline : (if c = '\n' then line + feeds + 1 else line + feeds) =
        line + if c = '\n' then feeds + 1 else feeds := by
      split_ifs <;> rfl
    unfold nameDiagnostics nameDefects
    rw [hline, ih]
    cases nameDefect? c <;> rfl

/-- A name without defects is one in which no character is a defect. -/
lemma isEmpty_nameDefects (feeds : Nat) (name : List Char) :
    (nameDefects feeds name).isEmpty = name.all fun c => (nameDefect? c).isNone := by
  induction name generalizing feeds with
  | nil => rfl
  | cons c name ih =>
    unfold nameDefects
    rw [List.all_cons]
    cases hdefect : nameDefect? c with
    | none => simp [ih]
    | some defect => rfl

namespace Sweep

/-- A search passes one character by going behind it and, if it is a line feed, by noting it. -/
lemma past_concat (before : List Char) (c : Char) :
    past (before ++ [c]) =
      let next := (past before).goTo ((past before).offset + c.utf8Size)
      if c = '\n' then next.passFeed else next := by
  have hpast := past_append before List.not_mem_nil c
  rw [byteLength_append_concat, List.append_nil] at hpast
  exact hpast

/-- A search passes a character of a name by noting the defect that it is, if it is one. -/
lemma throughName_cons (before : List Char) {c : Char} (hc : c ≠ '>') (cs : List Char) :
    (past before).throughName (c :: cs) =
      ((past (before ++ [c])).throughName cs).map fun (last, defects) =>
        (last, ((nameDefect? c).map (lineFeeds before, ·)).toList ++ defects) := by
  have hpast := past_concat before c
  unfold nameDefect?
  conv_lhs => unfold throughName
  rw [if_neg hc, hpast]
  by_cases hfeed : c = '\n'
  · simp only [if_pos hfeed]
    rfl
  · by_cases hforbidden : c ∈ forbiddenInName
    · simp only [if_neg hfeed, if_pos hforbidden]
      rfl
    · simp only [if_neg hfeed, if_neg hforbidden]
      simp

/-- The search through a name stops behind the closing bracket, with all defects of the name. -/
theorem throughName_append (before : List Char) {name : List Char} (hname : '>' ∉ name)
    (left : List Char) :
    (past before).throughName (name ++ '>' :: left) =
      some (past (before ++ (name ++ ['>'])), nameDefects (lineFeeds before) name) := by
  induction name generalizing before with
  | nil =>
    have hpast := past_concat before '>'
    show some ((past before).goTo _, []) = _
    rw [List.nil_append, hpast]
    rfl
  | cons c name ih =>
    obtain ⟨hc, hlater⟩ : '>' ≠ c ∧ '>' ∉ name := by simpa using hname
    have hfeeds : lineFeeds (before ++ [c]) =
        if c = '\n' then lineFeeds before + 1 else lineFeeds before := by
      rw [lineFeeds_append, lineFeeds_cons]
      split_ifs <;> rfl
    rw [List.cons_append, throughName_cons before hc.symm, ih (before ++ [c]) hlater, hfeeds,
      Option.map_some, List.append_assoc]
    conv_rhs => unfold nameDefects
    cases nameDefect? c <;> rfl

/-- The search through a name finds nothing where no bracket closes it. -/
theorem throughName_eq_none {cs : List Char} (h : '>' ∉ cs) (before : List Char) :
    (past before).throughName cs = none := by
  induction cs generalizing before with
  | nil => rfl
  | cons c cs ih =>
    obtain ⟨hc, hlater⟩ : '>' ≠ c ∧ '>' ∉ cs := by simpa using h
    rw [throughName_cons before hc.symm, ih hlater, Option.map_none]

end Sweep

end GrammarScan
