import Qdevice.Native.CorosyncQnetdTool
import Qdevice.Spec.IpcRun
import Qdevice.Spec.QuoteRoundTrip

/-! # A tool and its daemon

What a tool writes is read by the daemon as the command that the user gave, with any cluster name,
and what it prints is what the daemon answered to that command. -/

namespace Qdevice

/-! ### What the tool writes -/

/-- The text of a command, up to the newline. -/
def toolOptions (verbose : Bool) (clusterName : Option (List UInt8)) : List UInt8 :=
  (if verbose then ipcVerbose ++ [32] else []) ++
    match clusterName with
    | none => []
    | some clusterName => ipcCluster ++ [32] ++ quoted clusterName ++ [32]

/-- The word for an operation. -/
def QnetdToolOperation.word : QnetdToolOperation → List UInt8
  | .shutdown => ipcShutdown
  | .status => ipcStatus
  | .list => ipcList

theorem storeCommand_collects (operation : QnetdToolOperation) (verbose : Bool)
    (clusterName : Option (List UInt8)) :
    (storeCommand operation verbose clusterName).Collects
      (operation.word ++ [32] ++ toolOptions verbose clusterName ++ [10, 0]) () := by
  have hoperation : (storeOperation operation).Collects (operation.word ++ [32]) () := by
    cases operation <;> exact DynarM.Collects.cat _
  have hverbose : (storeVerbose verbose).Collects
      (if verbose then ipcVerbose ++ [32] else []) () := by
    unfold storeVerbose
    split
    · exact DynarM.Collects.cat _
    · exact .pure ()
  have hcluster : (storeClusterName clusterName).Collects
      (match clusterName with
        | none => []
        | some clusterName => ipcCluster ++ [32] ++ quoted clusterName ++ [32]) () := by
    cases clusterName with
    | none => exact .pure ()
    | some name =>
      have hall := (DynarM.Collects.cat (ipcCluster ++ [32])).andThen
        (f := fun _ => dynarStrQuoteCat name >>= fun _ => dynarStrCat [32])
        ((dynarStrQuoteCat_collects name).andThen (DynarM.Collects.cat [32]))
      rw [← List.append_assoc] at hall
      exact hall
  -- The parts are stored one behind the other.
  have hall := hoperation.andThen (f := fun _ => storeVerbose verbose >>= fun _ =>
      storeClusterName clusterName >>= fun _ => dynarCat [10, 0])
    (hverbose.andThen (f := fun _ => storeClusterName clusterName >>= fun _ => dynarCat [10, 0])
      (hcluster.andThen (DynarM.Collects.cat [10, 0])))
  have hassoc : operation.word ++ [32] ++ toolOptions verbose clusterName ++ [10, 0] =
      operation.word ++ [32] ++ ((if verbose then ipcVerbose ++ [32] else []) ++
        ((match clusterName with
          | none => []
          | some clusterName => ipcCluster ++ [32] ++ quoted clusterName ++ [32]) ++ [10, 0])) := by
    unfold toolOptions
    simp only [List.append_assoc]
  rw [hassoc]
  exact hall

/-! ### How the daemon reads it -/

/-- Words that are written as they are. -/
def PlainWord (word : List UInt8) : Prop :=
  ∀ ch ∈ word, ch ≠ 34 ∧ ch ≠ 92 ∧ ch ≠ 0 ∧ dynarSimpleLexIsSpace ch = false

/-- A plain word with a blank before or behind it, in any mode of the lexer. -/
theorem dynarSimpleLexWord_plain {lexType : DynarSimpleLexType} {word rest : List UInt8}
    (hword : PlainWord word) (hrest : WordEnd rest) :
    dynarSimpleLexWord lexType .word (word ++ rest) = (word, rest) := by
  induction word with
  | nil =>
    cases rest with
    | nil => rfl
    | cons ch rest => exact dynarSimpleLexWord_space rest (hrest ch rfl)
  | cons ch word ih =>
    obtain ⟨⟨hquote, hbackslash, -, hspace⟩, hword⟩ := List.forall_mem_cons.mp hword
    rw [List.cons_append]
    unfold dynarSimpleLexWord
    simp only [hquote, hbackslash, hspace, and_false, if_false, Bool.false_eq_true, ih hword,
      addChar]

theorem IpcDaemon.word_plain (daemon : IpcDaemon) {blanks word rest : List UInt8}
    (hblanks : Blanks blanks) (hword : PlainWord word) (hne : word ≠ []) (hrest : WordEnd rest) :
    daemon.word (blanks ++ (word ++ rest)) = (word, rest) := by
  have hskip : ∀ ch ∈ blanks, (dynarSimpleLexIsSpace ch && !Text.isLineEnd ch) = true := by
    intro ch hch
    rcases hblanks ch hch with rfl | rfl <;> rfl
  obtain ⟨ch, tail, rfl⟩ := List.exists_cons_of_ne_nil hne
  have hstart : (ch :: tail ++ rest).dropWhile
      (fun ch => dynarSimpleLexIsSpace ch && !Text.isLineEnd ch) = ch :: tail ++ rest := by
    apply List.dropWhile_cons_of_neg
    have hspace := (hword ch List.mem_cons_self).2.2.2
    simp [hspace]
  have hnul : 0 ∉ ch :: tail := fun hmem => (hword 0 hmem).2.2.1 rfl
  unfold IpcDaemon.word dynarSimpleLexTokenNext
  rw [List.dropWhile_append_of_pos hskip, hstart, dynarSimpleLexWord_plain hword hrest,
    cString_eq hnul]

/-- At the end of a line there is no word. -/
theorem IpcDaemon.word_blanks (daemon : IpcDaemon) {blanks : List UInt8} (hblanks : Blanks blanks) :
    daemon.word blanks = ([], []) := by
  have hskip : ∀ ch ∈ blanks, (dynarSimpleLexIsSpace ch && !Text.isLineEnd ch) = true := by
    intro ch hch
    rcases hblanks ch hch with rfl | rfl <;> rfl
  unfold IpcDaemon.word dynarSimpleLexTokenNext
  rw [List.dropWhile_eq_nil_iff.mpr hskip]
  rfl

/-- A quoted word whose closing quote is cut off with the end of the line. -/
theorem dynarSimpleLexWord_quote_cut {str : List UInt8} (h : Quotable str) :
    dynarSimpleLexWord .quote .quote (str.flatMap quoteChar) = (str, []) := by
  induction str with
  | nil => rfl
  | cons ch str ih =>
    obtain ⟨hch, hstr⟩ := List.forall_mem_cons.mp h
    have hend : Text.isLineEnd ch = false := by simp [Text.isLineEnd, hch]
    rw [List.flatMap_cons, quoteChar]
    by_cases hescape : ch = 34 ∨ ch = 92
    · rw [if_pos hescape]
      simp [dynarSimpleLexWord, hend, hescape.symm, ih hstr, addChar]
    · rw [if_neg hescape]
      obtain ⟨hquote, hbackslash⟩ := not_or.mp hescape
      simp [dynarSimpleLexWord, hend, hquote, hbackslash, ih hstr, addChar]

/-! ### The line of a command -/

theorem ipcLine_append {text rest : List UInt8} (h : OneLine text) :
    ipcLine (text ++ rest) = text ++ ipcLine rest := by
  unfold ipcLine
  apply List.takeWhile_append_of_pos
  intro ch hch
  rw [h ch hch]
  rfl

theorem oneLine_ipcLine (text : List UInt8) : OneLine (ipcLine text) := by
  intro ch hch
  have hall := List.mem_takeWhile_imp hch
  simpa using hall

/-- Quoting adds no line end. -/
theorem OneLine.flatMap_quoteChar {str : List UInt8} (h : OneLine str) :
    OneLine (str.flatMap quoteChar) := by
  intro ch hch
  obtain ⟨ch', hch', hmem⟩ := List.mem_flatMap.mp hch
  unfold quoteChar at hmem
  split at hmem
  · rcases List.mem_cons.mp hmem with rfl | hmem
    · rfl
    · rw [List.mem_singleton.mp hmem]
      exact h ch' hch'
  · rw [List.mem_singleton.mp hmem]
    exact h ch' hch'

/-- What stands on the line behind the operation and `verbose`. -/
inductive ToolTail : Option (List UInt8) → List UInt8 → Prop where
  | none : ToolTail Option.none []
  | some {clusterName rest blanks : List UInt8} (hrest : WordEnd rest)
      (hword : IpcDaemon.qnetd.word rest = (ipcLine clusterName, blanks))
      (hblanks : Blanks blanks) :
      ToolTail (Option.some clusterName) (ipcCluster ++ rest)

theorem blanks_space : Blanks [32] := fun _ hch => Or.inl (List.mem_singleton.mp hch)

theorem blanks_nil : Blanks [] := fun _ hch => by cases hch

theorem wordEnd_space (rest : List UInt8) : WordEnd ([32] ++ rest) := by
  intro ch hch
  cases hch
  rfl

/-- The quoted name on the line: all of it, or what stands before its first line end. -/
theorem ipcLine_quoted (clusterName : List UInt8) (hnul : 0 ∉ clusterName) :
    ∃ rest blanks, ipcLine ([32] ++ quoted clusterName ++ [32] ++ [10]) = rest ∧ WordEnd rest ∧
      IpcDaemon.qnetd.word rest = (ipcLine clusterName, blanks) ∧ Blanks blanks := by
  have hline := oneLine_ipcLine clusterName
  have hsub : ∀ ch ∈ ipcLine clusterName, ch ∈ clusterName :=
    fun ch hch => (List.takeWhile_prefix _).subset hch
  have hquotable : Quotable (ipcLine clusterName) := by
    intro ch hch
    have hend := hline ch hch
    simp only [Text.isLineEnd, Bool.or_eq_false_iff, beq_eq_false_iff_ne] at hend
    refine ⟨?_, hend⟩
    rintro rfl
    exact hnul (hsub 0 hch)
  have hnul' : 0 ∉ ipcLine clusterName := fun hmem => hnul (hsub 0 hmem)
  have hsplit : ipcLine clusterName ++ clusterName.dropWhile (!Text.isLineEnd ·) = clusterName :=
    List.takeWhile_append_dropWhile
  have hstart : OneLine ([32, 34] ++ (ipcLine clusterName).flatMap quoteChar) := by
    intro ch hch
    rcases List.mem_append.mp hch with hmem | hmem
    · simp only [List.mem_cons, List.not_mem_nil, or_false] at hmem
      rcases hmem with rfl | rfl <;> rfl
    · exact hline.flatMap_quoteChar ch hmem
  cases hdrop : clusterName.dropWhile (!Text.isLineEnd ·) with
  | nil =>
    -- The name has no line end.
    have hall : ipcLine clusterName = clusterName := by
      rw [hdrop, List.append_nil] at hsplit
      exact hsplit
    rw [hall] at hquotable hstart ⊢
    have htext : [32] ++ quoted clusterName ++ [32] ++ [10] =
        ([32, 34] ++ clusterName.flatMap quoteChar) ++ ([34, 32] ++ [10]) := by
      simp [quoted]
    refine ⟨[32] ++ (quoted clusterName ++ [32]), [32], ?_, wordEnd_space _, ?_, blanks_space⟩
    · rw [htext, ipcLine_append hstart]
      simp [quoted, ipcLine, Text.isLineEnd]
    · unfold IpcDaemon.word
      have hnext := dynarSimpleLexTokenNext_quoted blanks_space hquotable (wordEnd_space [])
      rw [List.append_nil] at hnext
      change (cString (dynarSimpleLexTokenNext .quote _).1,
        (dynarSimpleLexTokenNext .quote _).2) = _
      rw [hnext, cString_eq hnul]
  | cons ch rest =>
    have hend := isLineEnd_of_dropWhile hdrop
    have hchar : quoteChar ch = [ch] := by
      unfold quoteChar
      rw [if_neg]
      rintro (rfl | rfl) <;> cases hend
    -- The line ends inside of the quotes.
    have htext : [32] ++ quoted clusterName ++ [32] ++ [10] =
        ([32, 34] ++ (ipcLine clusterName).flatMap quoteChar) ++
          (ch :: (rest.flatMap quoteChar ++ [34, 32, 10])) := by
      conv_lhs => rw [← hsplit, hdrop]
      simp [quoted, hchar]
    refine ⟨[32, 34] ++ (ipcLine clusterName).flatMap quoteChar, [], ?_, wordEnd_space _, ?_, ?_⟩
    · rw [htext, ipcLine_append hstart]
      have hstop : ipcLine (ch :: (rest.flatMap quoteChar ++ [34, 32, 10])) = [] := by
        unfold ipcLine
        rw [List.takeWhile_cons, hend]
        rfl
      rw [hstop, List.append_nil]
    · have hword : dynarSimpleLexTokenNext .quote
          ([32, 34] ++ (ipcLine clusterName).flatMap quoteChar) = (ipcLine clusterName, []) :=
        dynarSimpleLexWord_quote_cut hquotable
      unfold IpcDaemon.word
      change (cString (dynarSimpleLexTokenNext .quote _).1,
        (dynarSimpleLexTokenNext .quote _).2) = _
      rw [hword, cString_eq hnul']
    · intro ch hch
      cases hch

/-- The words of the tools. -/
theorem plainWord_of_mem (word : List UInt8)
    (h : word ∈ [ipcShutdown, ipcStatus, ipcList, ipcVerbose, ipcCluster]) :
    PlainWord word ∧ OneLine word ∧ word ≠ [] := by
  simp only [List.mem_cons, List.not_mem_nil, or_false] at h
  unfold PlainWord OneLine
  rcases h with rfl | rfl | rfl | rfl | rfl <;> decide +kernel

theorem QnetdToolOperation.word_mem (operation : QnetdToolOperation) :
    operation.word ∈ [ipcShutdown, ipcStatus, ipcList, ipcVerbose, ipcCluster] := by
  cases operation <;> simp [QnetdToolOperation.word]

theorem oneLine_space {text : List UInt8} (h : OneLine text) : OneLine (text ++ [32]) := by
  intro ch hch
  rcases List.mem_append.mp hch with hmem | hmem
  · exact h ch hmem
  · rw [List.mem_singleton.mp hmem]
    rfl

/-- The line that a tool writes. -/
theorem ipcLine_tool (operation : QnetdToolOperation) (verbose : Bool)
    {clusterName : Option (List UInt8)} (hnul : ∀ name ∈ clusterName, 0 ∉ name) :
    ∃ tail, ToolTail clusterName tail ∧
      ipcLine (operation.word ++ [32] ++ toolOptions verbose clusterName ++ [10]) =
        operation.word ++ ([32] ++ ((if verbose then ipcVerbose ++ [32] else []) ++ tail)) := by
  have hoperation := oneLine_space (plainWord_of_mem _ operation.word_mem).2.1
  have hverbose : OneLine (if verbose then ipcVerbose ++ [32] else []) := by
    split
    · exact oneLine_space (plainWord_of_mem ipcVerbose (by simp)).2.1
    · intro ch hch
      cases hch
  have hcluster : OneLine ipcCluster := (plainWord_of_mem ipcCluster (by simp)).2.1
  unfold toolOptions
  cases clusterName with
  | none =>
    refine ⟨[], .none, ?_⟩
    rw [List.append_nil, List.append_assoc, ipcLine_append hoperation,
      ipcLine_append hverbose]
    simp [ipcLine, Text.isLineEnd]
  | some name =>
    obtain ⟨rest, blanks, hline, hend, hword, hblanks⟩ := ipcLine_quoted name (hnul name rfl)
    refine ⟨ipcCluster ++ rest, .some hend hword hblanks, ?_⟩
    have hassoc : operation.word ++ [32] ++ ((if verbose then ipcVerbose ++ [32] else []) ++
        (ipcCluster ++ [32] ++ quoted name ++ [32])) ++ [10] =
        (operation.word ++ [32]) ++ ((if verbose then ipcVerbose ++ [32] else []) ++
          (ipcCluster ++ ([32] ++ quoted name ++ [32] ++ [10]))) := by
      simp only [List.append_assoc]
    rw [hassoc, ipcLine_append hoperation, ipcLine_append hverbose, ipcLine_append hcluster, hline,
      List.append_assoc]

/-! ### The command -/

/-- What the user of a tool asks for.  Of a name with a line end in it the first line counts. -/
def QnetdToolOperation.command (verbose : Bool) (clusterName : Option (List UInt8)) :
    QnetdToolOperation → IpcCommand
  | .shutdown => .shutdown
  | .status => .status verbose
  | .list => .list verbose (clusterName.map ipcLine)

/-- The first word behind the blank. -/
theorem ToolTail.word {daemon : IpcDaemon} {clusterName : Option (List UInt8)} {tail : List UInt8}
    (h : ToolTail clusterName tail) :
    strcasecmpEq (daemon.word ([32] ++ tail)).1 ipcVerbose = false := by
  cases h with
  | none =>
    rw [List.append_nil, daemon.word_blanks blanks_space]
    rfl
  | some hrest =>
    obtain ⟨hplain, -, hne⟩ := plainWord_of_mem ipcCluster (by simp)
    rw [daemon.word_plain blanks_space hplain hne hrest]
    rfl

/-- The options behind `list` and `verbose`. -/
theorem ToolTail.options {clusterName : Option (List UInt8)} {tail : List UInt8}
    (h : ToolTail clusterName tail) (verbose : Bool) :
    ipcListOptions ([32] ++ tail) verbose Option.none = (verbose, clusterName.map ipcLine) := by
  cases h with
  | none =>
    rw [List.append_nil, ipcListOptions, IpcDaemon.qnetd.word_blanks blanks_space, dif_pos rfl]
    rfl
  | some hrest hname hblanks =>
    obtain ⟨hplain, -, hne⟩ := plainWord_of_mem ipcCluster (by simp)
    have hverbose : ¬ strcasecmpEq ipcCluster ipcVerbose = true := by decide
    have hcluster : strcasecmpEq ipcCluster ipcCluster = true := by decide
    rw [ipcListOptions, IpcDaemon.qnetd.word_plain blanks_space hplain hne hrest, dif_neg hne,
      if_neg hverbose, if_pos hcluster, hname, ipcListOptions,
      IpcDaemon.qnetd.word_blanks hblanks, dif_pos rfl]
    rfl

/-- **The daemon executes what the user asked for.** -/
theorem IpcCommand.ofLine_tool (daemon : IpcDaemon) (operation : QnetdToolOperation)
    (verbose : Bool) {clusterName : Option (List UInt8)} (hnul : ∀ name ∈ clusterName, 0 ∉ name)
    (htool : daemon = .qdevice → operation ≠ .list) :
    IpcCommand.ofLine daemon
        (ipcLine (operation.word ++ [32] ++ toolOptions verbose clusterName ++ [10])) =
      operation.command verbose clusterName := by
  obtain ⟨tail, htail, hline⟩ := ipcLine_tool operation verbose hnul
  obtain ⟨hplain, -, hne⟩ := plainWord_of_mem _ operation.word_mem
  rw [hline]
  generalize hoptions : [32] ++ ((if verbose then ipcVerbose ++ [32] else []) ++ tail) = options
  have hblank : WordEnd options := by
    rw [← hoptions]
    exact wordEnd_space _
  -- The operation is the first word, whatever comes behind it.
  have hfirst : daemon.word (operation.word ++ options) = (operation.word, options) :=
    daemon.word_plain blanks_nil hplain hne hblank
  have hverbose : strcasecmpEq (daemon.word options).1 ipcVerbose = verbose := by
    rw [← hoptions]
    cases verbose with
    | false => exact htail.word
    | true =>
      obtain ⟨hplain', -, hne'⟩ := plainWord_of_mem ipcVerbose (by simp)
      simp only [if_true]
      rw [List.append_assoc, daemon.word_plain blanks_space hplain' hne' (wordEnd_space tail)]
      rfl
  unfold IpcCommand.ofLine
  simp only [hfirst]
  cases operation with
  | shutdown => rfl
  | status =>
    rw [hverbose]
    rfl
  | list =>
    -- The tool of qdevice has no `list`.
    have hdaemon : daemon = .qnetd := by
      cases daemon with
      | qnetd => rfl
      | qdevice => exact absurd rfl (htool rfl)
    have hlist : ipcListOptions options false Option.none = (verbose, clusterName.map ipcLine) := by
      rw [← hoptions]
      cases verbose with
      | false => exact htail.options false
      | true =>
        obtain ⟨hplain', -, hne'⟩ := plainWord_of_mem ipcVerbose (by simp)
        simp only [if_true]
        have hword : strcasecmpEq ipcVerbose ipcVerbose = true := by decide
        rw [List.append_assoc, ipcListOptions,
          IpcDaemon.qnetd.word_plain blanks_space hplain' hne' (wordEnd_space tail), dif_neg hne',
          if_pos hword]
        exact htail.options true
    rw [hlist, hdaemon]
    rfl

/-! ### What the tool prints -/

/-- The beginning of two texts is one of the first text, or all of it and one of the second. -/
theorem prefix_append_cases {stream text rest : List UInt8} (h : stream <+: text ++ rest) :
    (∃ n < text.length, stream = text.take n) ∨ ∃ more, more <+: rest ∧ stream = text ++ more := by
  have htake := List.prefix_iff_eq_take.mp h
  by_cases hlength : stream.length < text.length
  · left
    rw [List.take_append_of_le_length (by omega)] at htake
    exact ⟨stream.length, hlength, htake⟩
  · right
    rw [List.take_append, List.take_of_length_le (by omega)] at htake
    exact ⟨_, List.take_prefix _ _, htake⟩

/-- The beginning of an answer that is no error.  Nothing is printed without its first line. -/
theorem readIpcReply_ok {stream text : List UInt8} (h : stream <+: ipcOk ++ text) :
    ∃ out, out <+: text ∧ readIpcReply stream = { out := out } := by
  have hcut : ∀ n < 3, readIpcReply (ipcOk.take n) = {} := by decide
  rcases prefix_append_cases h with ⟨n, hn, rfl⟩ | ⟨out, hout, rfl⟩
  · exact ⟨[], List.nil_prefix, hcut n hn⟩
  · exact ⟨out, hout, rfl⟩

/-- The beginning of an error. -/
theorem readIpcReply_error {stream text : List UInt8} (h : stream <+: ipcError ++ text) :
    readIpcReply stream = {} ∨
      ∃ err, err <+: text ∧ readIpcReply stream = { res := 1, err := ipcErrorPrinted ++ err } := by
  have hcut : ∀ n < 6, readIpcReply (ipcError.take n) = {} := by decide
  rcases prefix_append_cases h with ⟨n, hn, rfl⟩ | ⟨err, herr, rfl⟩
  · exact Or.inl (hcut n hn)
  · exact Or.inr ⟨err, herr, rfl⟩

/-- The errors that a tool can get: there is no room for what it asked for. -/
def QnetdToolOperation.failures (daemon : IpcDaemon) : QnetdToolOperation → List (List UInt8)
  | .shutdown => [ipcBufferTooSmall]
  | .status => [daemon.noStatus, ipcBufferTooSmall]
  | .list => [qnetdIpcNoList, ipcBufferTooSmall]

variable {W : Type} {texts : IpcTexts W} {daemon : IpcDaemon} {maxSendSize : Nat}

/-- The answer to what a tool asks for. -/
theorem QnetdToolOperation.reply_cases {operation : QnetdToolOperation} {verbose : Bool}
    {clusterName : Option (List UInt8)} {inst : W} {reply : List UInt8}
    (h : (operation.command verbose clusterName).reply texts daemon maxSendSize inst = some reply) :
    reply = ipcOk ++ (operation.command verbose clusterName).text texts inst ∨
    maxSendSize < (ipcOk ++ (operation.command verbose clusterName).text texts inst).length ∧
      ∃ failure ∈ operation.failures daemon, reply = ipcError ++ (failure ++ [10]) := by
  cases operation with
  | shutdown =>
    refine (ipcOkReply_cases h).imp_right ?_
    rintro ⟨hroom, hreply⟩
    exact ⟨hroom, ipcBufferTooSmall, List.mem_singleton_self _, hreply⟩
  | status => exact ipcTextReply_cases h
  | list => exact ipcTextReply_cases h

/-- The first line of what has come is the first line of all, once a line end has come. -/
theorem ipcLine_eq_of_beginning {text all : List UInt8} (h : text <+: all) (hline : 10 ∈ text) :
    ipcLine text = ipcLine all := by
  obtain ⟨rest, rfl⟩ := h
  induction text with
  | nil => cases hline
  | cons ch text ih =>
    unfold ipcLine at ih ⊢
    rw [List.cons_append, List.takeWhile_cons, List.takeWhile_cons]
    by_cases hend : Text.isLineEnd ch = true
    · rw [hend]
      rfl
    · have htext : 10 ∈ text := by
        refine (List.mem_cons.mp hline).resolve_left ?_
        rintro rfl
        exact hend rfl
      rw [ih htext]

variable {maxClients maxReceiveSize listening : Nat} {inst : W} {state : IpcState W}

/-- What the tool writes, which is up to the NUL. -/
theorem storeCommand_cString {operation : QnetdToolOperation} {verbose : Bool}
    {clusterName : Option (List UInt8)} {maximumSize : Nat} {command : Dynar}
    (hnul : ∀ name ∈ clusterName, 0 ∉ name)
    (h : storeCommand operation verbose clusterName (dynarInit maximumSize) =
      (some (), command)) :
    cString command.data = operation.word ++ [32] ++ toolOptions verbose clusterName ++ [10] := by
  have hcollects := storeCommand_collects operation verbose clusterName
  have hcommand := hcollects.of_eq_some (Nat.zero_le _) h
  have hplain (word : List UInt8)
      (hword : word ∈ [ipcShutdown, ipcStatus, ipcList, ipcVerbose, ipcCluster]) : 0 ∉ word :=
    fun hmem => ((plainWord_of_mem word hword).1 0 hmem).2.2.1 rfl
  have hoptions : 0 ∉ toolOptions verbose clusterName := by
    have hverbose : 0 ∉ (if verbose then ipcVerbose ++ [32] else []) := by
      split
      · simp [hplain ipcVerbose (by simp)]
      · simp
    unfold toolOptions
    cases clusterName with
    | none => simpa using hverbose
    | some name =>
      have hname : 0 ∉ name.flatMap quoteChar := by
        intro hmem
        obtain ⟨ch, hch, hzero⟩ := List.mem_flatMap.mp hmem
        have hne : ch ≠ 0 := by
          rintro rfl
          exact hnul name rfl hch
        unfold quoteChar at hzero
        split at hzero <;> simp [hne.symm] at hzero
      simp only [List.mem_append, hverbose, hplain ipcCluster (by simp), quoted, List.mem_cons,
        hname, List.not_mem_nil, or_false, false_or]
      decide
  have hline : 0 ∉ operation.word ++ [32] ++ toolOptions verbose clusterName ++ [10] := by
    simp [hplain _ operation.word_mem, hoptions]
  -- The only NUL is the last byte.
  have hsplit : command.data =
      operation.word ++ [32] ++ toolOptions verbose clusterName ++ [10] ++ [0] := by
    rw [hcommand]
    simp [dynarInit]
  rw [hsplit, cString_nul, cString_eq hline]

/-- **A tool prints the answer to what it was asked for**: in every run of the daemon, on a
    connection where it received what a tool wrote for an operation, or some of it, what the tool
    makes of what was sent is nothing, or the beginning of what the command prints, from the daemon
    as it was when the line was complete, or the beginning of an error, and that only if there was no
    room for what the command prints. -/
theorem ipc_tool_reply {operation : QnetdToolOperation} {verbose : Bool}
    {clusterName : Option (List UInt8)} {maximumSize : Nat} {command : Dynar}
    (hnul : ∀ name ∈ clusterName, 0 ∉ name) (htool : daemon = .qdevice → operation ≠ .list)
    (hstored : storeCommand operation verbose clusterName (dynarInit maximumSize) =
      (some (), command))
    (h : (ipcMachine texts daemon listening maxClients maxReceiveSize maxSendSize inst).Reach
      IpcOk state) {address : Nat}
    (hwritten : (state.wire address).received <+: cString command.data) :
    readIpcReply (state.wire address).sent = {} ∨
    ∃ inst', (state.wire address).asked = some inst' ∧
      ((∃ out, out <+: (operation.command verbose clusterName).text texts inst' ∧
        readIpcReply (state.wire address).sent = { out := out }) ∨
      (maxSendSize < (ipcOk ++ (operation.command verbose clusterName).text texts inst').length ∧
        ∃ failure ∈ operation.failures daemon, ∃ err, err <+: failure ++ [10] ∧
          readIpcReply (state.wire address).sent =
            { res := 1, err := ipcErrorPrinted ++ err })) := by
  have hserved := (ipcMachine_inv h).served address
  have hnothing (hsent : (state.wire address).sent = []) :
      readIpcReply (state.wire address).sent = {} := by
    rw [hsent]
    rfl
  cases hasked : (state.wire address).asked with
  | none => exact Or.inl (hnothing (hserved.unasked hasked))
  | some inst' =>
    obtain ⟨hline, hprefix⟩ := hserved.asked inst' hasked
    -- The line has come, so it is the one that the tool wrote.
    have hcommand :
        (state.wire address).command daemon = operation.command verbose clusterName := by
      unfold IpcWire.command
      rw [ipcLine_eq_of_beginning hwritten hline, storeCommand_cString hnul hstored]
      exact IpcCommand.ofLine_tool daemon operation verbose hnul htool
    unfold IpcWire.reply at hprefix
    rw [hcommand] at hprefix
    cases hreply : (operation.command verbose clusterName).reply texts daemon maxSendSize inst' with
    | none =>
      rw [hreply] at hprefix
      exact Or.inl (hnothing (List.prefix_nil.mp hprefix))
    | some reply =>
      rw [hreply, Option.getD_some] at hprefix
      rcases QnetdToolOperation.reply_cases hreply with rfl | ⟨hroom, failure, hfailure, rfl⟩
      · exact Or.inr ⟨inst', rfl, Or.inl (readIpcReply_ok hprefix)⟩
      · refine (readIpcReply_error hprefix).imp_right fun herror => ?_
        exact ⟨inst', rfl, Or.inr ⟨hroom, failure, hfailure, herror⟩⟩

/-- A verbose `status` with a cluster name, in two pieces, and some of the answer. -/
def ipcToolRun : List (IpcEvent Unit) :=
  [.accept (some 5), .setEvents 5, .read 5 (.bytes ipcStatus), .setEvents 5,
    .read 5 (.bytes ([32] ++ toolOptions true (some [97]) ++ [10])), .setEvents 5,
    .write 5 (.bytes 4)]

theorem ipc_tool_reply_status :
    ∃ state, (ipcMachine ipcUp .qnetd 3 2 64 64 ()).Reach IpcOk state ∧
      (readIpcReply (state.wire 0).sent).out = [117] ∧
      [117] <+: (QnetdToolOperation.command true (some [97]) .status).text ipcUp () := by
  have hrun : ((ipcMachine ipcUp .qnetd 3 2 64 64 ()).execWhile (fun s e => decide (IpcOk s e))
      (ipcMachine ipcUp .qnetd 3 2 64 64 ()).init ipcToolRun).any fun state =>
        decide (readIpcReply (state.wire 0).sent = { out := [117] }) &&
          decide ((state.wire 0).received =
            ipcStatus ++ [32] ++ toolOptions true (some [97]) ++ [10]) := by
    decide +kernel
  simp only [Option.any_eq_true, Bool.and_eq_true, decide_eq_true_eq] at hrun
  obtain ⟨state, hs, hread, hreceived⟩ := hrun
  have hreach : (ipcMachine ipcUp .qnetd 3 2 64 64 ()).Reach IpcOk state :=
    Runs.Machine.Reach.execWhile (fun s e h => of_decide_eq_true h) .init hs
  have hnul : ∀ name ∈ some [97], (0 : UInt8) ∉ name := by
    intro name hname
    cases hname
    decide
  have hstored : storeCommand .status true (some [97]) (dynarInit 64) =
      (some (), (storeCommand .status true (some [97]) (dynarInit 64)).2) := by
    decide +kernel
  have hwritten : (state.wire 0).received <+:
      cString (storeCommand .status true (some [97]) (dynarInit 64)).2.data := by
    rw [storeCommand_cString hnul hstored, hreceived]
    exact List.prefix_rfl
  refine ⟨state, hreach, by rw [hread], ?_⟩
  rcases ipc_tool_reply hnul (fun h => by cases h) hstored hreach hwritten with
    hnothing | ⟨inst, -, ⟨out, hprefix, hout⟩ | ⟨-, failure, -, err, -, herr⟩⟩
  · rw [hread] at hnothing
    cases hnothing
  · rw [hread] at hout
    cases hout
    exact hprefix
  · rw [hread] at herr
    cases herr

end Qdevice
