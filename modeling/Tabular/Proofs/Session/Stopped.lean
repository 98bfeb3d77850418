import Mathlib.Data.List.Induction
import Tabular.Proofs.Session.Composed

/-!
# Where sessions stop reading

A session reads a script up to the semicolon of an `exit`, or up to a line that is not text, or up
to its end. What stands behind the place makes no difference, whatever it is, and nothing that
stands before it is lost (`Session.run_stopped`).

The events of a script up to a place in a line are a front of its events, whatever the line goes on
with (`exists_scriptEvents_opened`), and behind an `exit` nothing is played. Conversely an `exit`
has a semicolon of its own: it is the first one after which the script comes to an `exit` at all
(`Session.exists_exit_semicolon`).

## The two parts, and what each rests on

* Behind an `exit` nothing is played (`Session.Exits.play_append`). That is a fact about events;
  what is added is that the events up to a semicolon are the same whatever the line goes on with,
  although a line is cut as a whole.
* Before a line that is not text, all lines are as they are alone (`Session.run_bad_line`). Here the
  end of the shorter script matters, because a session says there that a statement is unfinished,
  and at a line that is not text it does not.

The decomposition of a script that comes to an `exit` goes through its lines first, and then through
the fronts of one line, of which the shortest that comes to an `exit` is taken
(`Session.exists_shortest_front`).
-/

namespace Tabular

namespace Session

variable {prompt : Option String} {passes : Nat → Passes} {s : State}

/-! ### Exits of scripts -/

/-- In a script that stops with a line, or before one, it is the events up to there that decide. -/
theorem exits_iff_opened {before ending : Text.Bytes} {texts : List String} {line : String}
    (hbefore : Text.WholeLines before) (htexts : Text.textLines before = texts.map some)
    (hline : '\n' ∉ line.toList) (hending : Text.EndsLine ending) (hlast : ending.tail = []) :
    Exits prompt passes (scriptEvents (before ++ (Text.utf8 line ++ ending))) s ↔
      Exits prompt passes (Splitter.opened texts line.toList) s := by
  obtain ⟨more, hevents, hquiet⟩ := exists_scriptEvents_opened hbefore htexts hline hending
  rw [hevents, exits_append_of_quiet (hquiet hlast)]

/-- Nothing comes after a line that is not text. -/
theorem scriptEvents_append_of_none {before : Text.Bytes} (hbefore : Text.WholeLines before)
    (hnone : none ∈ Text.textLines before) (rest : Text.Bytes) :
    scriptEvents (before ++ rest) = scriptEvents before := by
  obtain ⟨front, more, hlines, hfront⟩ := List.eq_append_cons_of_mem hnone
  obtain ⟨texts, rfl⟩ := Text.exists_eq_map_some hfront
  have hall : Text.textLines (before ++ rest) =
      texts.map some ++ none :: (more ++ Text.textLines rest) := by
    rw [Text.textLines_append hbefore, hlines, List.append_assoc, List.cons_append]
  rw [scriptEvents_of_bad_line hlines, scriptEvents_of_bad_line hall]

/-- **Nothing that stands behind an `exit` makes a difference**: not the rest of its line, and not
what follows the line. -/
theorem run_eq_of_exits {before ending : Text.Bytes} {front tail : String}
    (hbefore : Text.WholeLines before) (hline : '\n' ∉ (front ++ tail).toList)
    (hending : Text.EndsLine ending)
    (hexit : Exits prompt passes (scriptEvents (before ++ Text.utf8 front)) s) :
    run prompt passes (before ++ (Text.utf8 (front ++ tail) ++ ending)) s =
        run prompt passes (before ++ Text.utf8 front) s ∧
      (run prompt passes (before ++ Text.utf8 front) s).flow = .finish := by
  refine ⟨?_, hexit.flow_eq⟩
  by_cases hnone : none ∈ Text.textLines before
  · rw [run, run, scriptEvents_append_of_none hbefore hnone,
      scriptEvents_append_of_none hbefore hnone]
  · obtain ⟨texts, htexts⟩ := Text.exists_eq_map_some hnone
    have hfront : '\n' ∉ front.toList := fun h ↦ hline (by simp [h])
    have hopened : Exits prompt passes (Splitter.opened texts front.toList) s := by
      rw [← List.append_nil (Text.utf8 front)] at hexit
      exact (exits_iff_opened hbefore htexts hfront (.inl rfl) rfl).1 hexit
    -- both scripts begin with these events, which end the session
    obtain ⟨more, hevents, -⟩ := exists_scriptEvents_opened hbefore htexts hline hending
    obtain ⟨more', hevents', -⟩ :=
      exists_scriptEvents_opened hbefore htexts hfront (.inl rfl : Text.EndsLine [])
    rw [List.append_nil] at hevents'
    rw [String.toList_append, Splitter.opened_append, List.append_assoc] at hevents
    rw [run, run, hevents, hevents', hopened.play_append, hopened.play_append]

/-! ### The semicolon of an exit -/

/-- A list with a property that the empty list has not has a shortest front with it. -/
theorem exists_shortest_front {α : Type} (p : List α → Prop) (hnil : ¬ p []) {l : List α}
    (h : p l) : ∃ front a rest, l = front ++ a :: rest ∧ ¬ p front ∧ p (front ++ [a]) := by
  induction l using List.reverseRecOn with
  | nil => exact absurd h hnil
  | append_singleton front a ih =>
    by_cases hfront : p front
    · obtain ⟨front', a', rest, rfl, h'⟩ := ih hfront
      exact ⟨front', a', rest ++ [a], by simp, h'⟩
    · exact ⟨front, a, [], rfl, hfront, h⟩

/-- If the session comes to an `exit` in a line, the line has a semicolon up to which it does, and
not before. -/
theorem exists_exit_in_line {before ending : Text.Bytes} {line : String}
    (hbefore : Text.WholeLines before) (hline : '\n' ∉ line.toList)
    (hending : Text.EndsLine ending) (hlast : ending.tail = [])
    (hnot : ¬ Exits prompt passes (scriptEvents before) s)
    (h : Exits prompt passes (scriptEvents (before ++ (Text.utf8 line ++ ending))) s) :
    ∃ front tail : String, line = front ++ ";" ++ tail ∧
      Exits prompt passes (scriptEvents (before ++ Text.utf8 (front ++ ";"))) s ∧
      ¬ Exits prompt passes (scriptEvents (before ++ Text.utf8 front)) s := by
  have hnone : none ∉ Text.textLines before := fun hnone ↦ by
    rw [scriptEvents_append_of_none hbefore hnone] at h
    exact hnot h
  obtain ⟨texts, htexts⟩ := Text.exists_eq_map_some hnone
  have hiff {cs : List Char} (hcs : '\n' ∉ cs) :
      Exits prompt passes (scriptEvents (before ++ Text.utf8 (String.ofList cs))) s ↔
        Exits prompt passes (Splitter.opened texts cs) s := by
    have hline' : '\n' ∉ (String.ofList cs).toList := by rwa [String.toList_ofList]
    rw [← List.append_nil (Text.utf8 _), exits_iff_opened hbefore htexts hline' (.inl rfl) rfl,
      String.toList_ofList]
  have hstart : ¬ Exits prompt passes (Splitter.opened texts []) s := by
    have hempty : before ++ Text.utf8 (String.ofList []) = before := List.append_nil before
    rwa [← hiff List.not_mem_nil, hempty]
  obtain ⟨front, c, tail, hsplit, hfront, hc⟩ := exists_shortest_front
    (fun cs ↦ Exits prompt passes (Splitter.opened texts cs) s) hstart
    ((exits_iff_opened hbefore htexts hline hending hlast).1 h)
  -- no other character completes a statement
  obtain rfl : c = ';' := by
    by_contra hne
    rw [Splitter.opened_concat_of_ne hne] at hc
    exact hfront hc
  have hchars : '\n' ∉ front ++ ';' :: tail := hsplit ▸ hline
  refine ⟨String.ofList front, String.ofList tail, ?_, ?_, ?_⟩
  · rw [← String.toList_inj, hsplit]
    simp
  · have hput : String.ofList front ++ ";" = String.ofList (front ++ [';']) := by
      rw [← String.toList_inj]
      simp
    rw [hput, hiff fun hmem ↦ hchars (by simp_all)]
    exact hc
  · rwa [hiff fun hmem ↦ hchars (List.mem_append_left _ hmem)]

/-- A line that is not text adds nothing to what is carried out. -/
theorem exits_append_of_bad_line {before rest : Text.Bytes} (hbefore : Text.WholeLines before)
    (hbad : (Text.textLines rest).head? = some none) :
    Exits prompt passes (scriptEvents (before ++ rest)) s ↔
      Exits prompt passes (scriptEvents before) s := by
  by_cases hnone : none ∈ Text.textLines before
  · rw [scriptEvents_append_of_none hbefore hnone]
  · obtain ⟨texts, htexts⟩ := Text.exists_eq_map_some hnone
    obtain ⟨more, hmore⟩ := List.head?_eq_some_iff.1 hbad
    have hall : Text.textLines (before ++ rest) = texts.map some ++ none :: more := by
      rw [Text.textLines_append hbefore, htexts, hmore]
    rw [scriptEvents_of_bad_line hall, scriptEvents_of_lines htexts,
      exits_append_of_quiet (by simp [Event.text?]), exits_append_of_quiet (by simp [Event.text?])]

/-- **An `exit` has a semicolon of its own**, the first up to which the session comes to an `exit`
at all, somewhere in a line that is text up to its end. -/
theorem exists_exit_semicolon {before rest : Text.Bytes} (hbefore : Text.WholeLines before)
    (hnot : ¬ Exits prompt passes (scriptEvents before) s)
    (h : Exits prompt passes (scriptEvents (before ++ rest)) s) :
    ∃ (lines : Text.Bytes) (front tail : String) (ending : Text.Bytes),
      before ++ rest = lines ++ (Text.utf8 (front ++ ";" ++ tail) ++ ending) ∧
      Text.WholeLines lines ∧ '\n' ∉ (front ++ ";" ++ tail).toList ∧ Text.EndsLine ending ∧
      Exits prompt passes (scriptEvents (lines ++ Text.utf8 (front ++ ";"))) s ∧
      ¬ Exits prompt passes (scriptEvents (lines ++ Text.utf8 front)) s := by
  induction rest using Text.piece_induction Text.lf generalizing before with
  | last piece hpiece =>
    cases htext : Text.ofUtf8? piece with
    | none =>
      have hne : piece ≠ [] := by
        rintro rfl
        cases htext
      have hbad : (Text.textLines piece).head? = some none := by
        rw [Text.textLines, Text.lines_eq_singleton hpiece hne, List.map_singleton, htext]
        rfl
      exact absurd ((exits_append_of_bad_line hbefore hbad).1 h) hnot
    | some line =>
      obtain rfl := Text.eq_utf8_of_ofUtf8? htext
      have hline : '\n' ∉ line.toList := mt Text.lf_mem_utf8_iff.2 hpiece
      rw [← List.append_nil (Text.utf8 line)] at h ⊢
      obtain ⟨front, tail, rfl, hexit, hfront⟩ :=
        exists_exit_in_line hbefore hline (.inl rfl) rfl hnot h
      exact ⟨before, front, tail, [], rfl, hbefore, hline, .inl rfl, hexit, hfront⟩
  | cons piece more hpiece ih =>
    by_cases hfirst : Exits prompt passes (scriptEvents (before ++ (piece ++ [Text.lf]))) s
    · cases htext : Text.ofUtf8? (Text.chomp piece) with
      | none =>
        have hbad : (Text.textLines (piece ++ [Text.lf])).head? = some none := by
          rw [Text.textLines, Text.lines_append_lf hpiece, List.map_cons, htext]
          rfl
        exact absurd ((exits_append_of_bad_line hbefore hbad).1 hfirst) hnot
      | some text =>
        obtain ⟨line, rfl⟩ := Text.exists_eq_utf8_of_chomp htext
        have hline : '\n' ∉ line.toList := mt Text.lf_mem_utf8_iff.2 hpiece
        obtain ⟨front, tail, rfl, hexit, hfront⟩ :=
          exists_exit_in_line hbefore hline (.inr rfl) rfl hnot hfirst
        exact ⟨before, front, tail, _, rfl, hbefore, hline, .inr rfl, hexit, hfront⟩
    · have hsplit :
          before ++ (piece ++ Text.lf :: more) = before ++ (piece ++ [Text.lf]) ++ more := by simp
      rw [hsplit] at h ⊢
      refine ih ?_ hfirst h
      rw [← List.append_assoc]
      exact .append_lf piece

/-! ### Lines that are not text -/

/-- **A script with a line that is not text has a first one**, and whole lines before it. -/
theorem exists_bad_line {script : Text.Bytes} (h : none ∈ Text.textLines script) :
    ∃ before rest : Text.Bytes, script = before ++ rest ∧ Text.WholeLines before ∧
      none ∉ Text.textLines before ∧ (Text.textLines rest).head? = some none := by
  induction script using Text.piece_induction Text.lf with
  | last piece hpiece =>
    have hne : piece ≠ [] := by
      rintro rfl
      cases h
    rw [Text.textLines, Text.lines_eq_singleton hpiece hne] at h
    refine ⟨[], piece, rfl, .inl rfl, List.not_mem_nil, ?_⟩
    rw [Text.textLines, Text.lines_eq_singleton hpiece hne]
    exact congrArg some (List.mem_singleton.1 h).symm
  | cons piece more hpiece ih =>
    have hlines (rest : Text.Bytes) : Text.textLines (piece ++ Text.lf :: rest) =
        Text.ofUtf8? (Text.chomp piece) :: Text.textLines rest := by
      rw [Text.textLines, Text.lines_append_lf hpiece]
      rfl
    rw [hlines] at h
    cases htext : Text.ofUtf8? (Text.chomp piece) with
    | none =>
      refine ⟨[], piece ++ Text.lf :: more, rfl, .inl rfl, List.not_mem_nil, ?_⟩
      rw [hlines, htext]
      rfl
    | some text =>
      rw [htext] at h
      have hmore : none ∈ Text.textLines more := by simpa using h
      obtain ⟨before, rest, rfl, hbefore, hnone, hbad⟩ := ih hmore
      refine ⟨piece ++ Text.lf :: before, rest, by simp, Text.wholeLines_line_append_iff.2 hbefore,
        ?_, hbad⟩
      rw [hlines, htext]
      exact List.not_mem_cons_of_ne_of_not_mem (by simp) hnone

/-- **Where a line is not text the session stops**, and the lines before it have come to what they
come to alone. Only that something was waiting there for its semicolon is not said. -/
theorem run_bad_line {before rest : Text.Bytes} (hbefore : Text.WholeLines before)
    (hnone : none ∉ Text.textLines before) (hbad : (Text.textLines rest).head? = some none) :
    let t := run prompt passes before s
    let t' := run prompt passes (before ++ rest) s
    t'.messages = t.messages.filter (· ≠ .error (.malformed .unfinished)) ∧ t'.state = t.state ∧
      executed prompt passes (scriptEvents (before ++ rest)) s =
        executed prompt passes (scriptEvents before) s ∧
      (s.database.WellFormed → ¬ Exits prompt passes (scriptEvents before) s →
        t'.flow = .stop .notUtf8) := by
  obtain ⟨texts, htexts⟩ := Text.exists_eq_map_some hnone
  obtain ⟨more, hmore⟩ := List.head?_eq_some_iff.1 hbad
  have hall : Text.textLines (before ++ rest) = texts.map some ++ none :: more := by
    rw [Text.textLines_append hbefore, htexts, hmore]
  have hwithin : ∀ e ∈ (Splitter.start.lines texts).1, e.Within :=
    fun e he ↦ Splitter.within_of_mem_lines he
  have hkept : ∀ m ∈ promptWhen prompt true ++
      (play prompt passes (Splitter.start.lines texts).1 s).messages,
      decide (m ≠ .error (.malformed .unfinished)) = true := by
    intro m hm
    rw [decide_eq_true_iff]
    rintro rfl
    rcases List.mem_append.1 hm with hm | hm
    · exact error_not_mem_promptWhen true _ hm
    · exact unfinished_not_mem_play hwithin s hm
  rw [run, run, scriptEvents_of_bad_line hall, scriptEvents_of_lines htexts,
    executed_append_of_quiet (by simp [Event.text?]), exits_append_of_quiet (by simp [Event.text?]),
    play_append, play_append]
  generalize Splitter.idle _ = idle
  by_cases hgoOn : (play prompt passes (Splitter.start.lines texts).1 s).flow = .goOn
  · simp only [if_pos hgoOn]
    refine ⟨?_, rfl, (executed_append_finish ..).symm, fun _ _ ↦ rfl⟩
    show promptWhen prompt true ++ ((play prompt passes _ s).messages ++ []) =
      (promptWhen prompt true ++ ((play prompt passes _ s).messages ++ _)).filter _
    rw [List.append_nil, ← List.append_assoc, List.filter_append, List.filter_eq_self.2 hkept]
    cases idle <;> simp [play_cons, State.reply, act, Disk.FileTree.perform]
  · simp only [if_neg hgoOn]
    refine ⟨(List.filter_eq_self.2 hkept).symm, trivial, (executed_append_finish ..).symm,
      fun hs hexit ↦ ?_⟩
    exact absurd ((goOn_iff_not_exits hwithin hs).2 hexit) hgoOn

/-- **What a session does not come to makes no difference, and what it has come to is not lost.**
A session that comes to an `exit` does so at a semicolon, in a line that is text up to its end; with
any other text in the place of what follows in this line, and with any bytes in the place of what
follows the line, the same is written, the same is left behind, and the session ends in the same
way. A script with a line that is not text comes to what its lines before the first such line come
to, unless these end the session; only nothing is called unfinished then. -/
theorem run_stopped (prompt : Option String) (passes : Nat → Passes) (s : State) :
    (∀ before front tail ending, Text.WholeLines before → '\n' ∉ (front ++ ";" ++ tail).toList →
      Text.EndsLine ending →
      Exits prompt passes (scriptEvents (before ++ Text.utf8 (front ++ ";"))) s →
      run prompt passes (before ++ (Text.utf8 (front ++ ";" ++ tail) ++ ending)) s =
          run prompt passes (before ++ Text.utf8 (front ++ ";")) s ∧
        (run prompt passes (before ++ Text.utf8 (front ++ ";")) s).flow = .finish) ∧
    (∀ script, Exits prompt passes (scriptEvents script) s →
      ∃ (before : Text.Bytes) (front tail : String) (ending : Text.Bytes),
        script = before ++ (Text.utf8 (front ++ ";" ++ tail) ++ ending) ∧
        Text.WholeLines before ∧ '\n' ∉ (front ++ ";" ++ tail).toList ∧ Text.EndsLine ending ∧
        Exits prompt passes (scriptEvents (before ++ Text.utf8 (front ++ ";"))) s ∧
        ¬ Exits prompt passes (scriptEvents (before ++ Text.utf8 front)) s) ∧
    (∀ before rest, Text.WholeLines before → none ∉ Text.textLines before →
      (Text.textLines rest).head? = some none →
      let t := run prompt passes before s
      let t' := run prompt passes (before ++ rest) s
      t'.messages = t.messages.filter (· ≠ .error (.malformed .unfinished)) ∧ t'.state = t.state ∧
        executed prompt passes (scriptEvents (before ++ rest)) s =
          executed prompt passes (scriptEvents before) s ∧
        (s.database.WellFormed → ¬ Exits prompt passes (scriptEvents before) s →
          t'.flow = .stop .notUtf8)) ∧
    ∀ script, none ∈ Text.textLines script →
      ∃ before rest : Text.Bytes, script = before ++ rest ∧ Text.WholeLines before ∧
        none ∉ Text.textLines before ∧ (Text.textLines rest).head? = some none := by
  refine ⟨fun before front tail ending hbefore hline hending hexit ↦ ?_, fun script hexit ↦ ?_,
    fun before rest hbefore hnone hbad ↦ run_bad_line hbefore hnone hbad,
    fun script ↦ exists_bad_line⟩
  · exact run_eq_of_exits hbefore hline hending hexit
  · have hnot : ¬ Exits prompt passes (scriptEvents []) s := by
      rintro ⟨p, hp, -⟩
      have hmem : Event.statement p.1 ∈ [.finish true] := mem_of_mem_executed hp
      simp at hmem
    exact exists_exit_semicolon (.inl rfl) hnot hexit

/-- An `exit` among other statements of its line, which begins within a statement, with bytes behind
the line that are no text; and such bytes behind a line that leaves a statement unfinished. -/
theorem run_stopped_broken :
    let passes : Nat → Passes := fun _ ↦ .arrival
    let s : State := ⟨.empty "", .empty, 0⟩
    let before := Text.utf8 "print\n"
    let bad : Text.Bytes := [255, 10]
    run (some "> ") passes
          (before ++ (Text.utf8 ("t; quit" ++ ";" ++ " print u;") ++ Text.lf :: bad)) s =
        run (some "> ") passes (before ++ Text.utf8 ("t; quit" ++ ";")) s ∧
      (run none passes (before ++ bad) s).flow = .stop .notUtf8 := by
  intro passes s before bad
  have hbefore : Text.WholeLines before := by decide +kernel
  obtain ⟨hexit, -, -, -⟩ := run_stopped (some "> ") passes s
  obtain ⟨-, -, hbad, -⟩ := run_stopped none passes s
  constructor
  · exact (hexit before "t; quit" " print u;" (Text.lf :: bad) hbefore (by decide +kernel)
      (.inr rfl) (by decide +kernel)).1
  · exact (hbad before bad hbefore (by decide +kernel) (by decide +kernel)).2.2.2
      (Database.wellFormed_empty "") (by decide +kernel)

end Session

end Tabular
