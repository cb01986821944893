import Mathlib.Data.List.Perm.Basic
import Mathlib.Logic.Relation
import WinrtLint.Proofs.Outcome
import WinrtLint.Proofs.Source.ScanOrder
import WinrtLint.Source.Files

/-!
# Scanning files with several workers

A pool of workers scans files that are handed to it in the order of a list.  A
worker that is free takes the next file, scans end in any order, and what they
found is collected in any order among those that have ended.  The files
themselves do not change meanwhile.

What a pool holds is always what has become of the files of the list, each of
them once for every time that it is listed (`Pool.Accounts`).  A pool is never
stuck and every step brings it nearer to its end (`Pool.exists_done`).  When it
is done, the scans were collected in some order of the list, and every order is
one in which they can be (`Pool.exists_run`).  The findings are put back into
the order of the list, so that order is lost on the way and they are those of a
scan of one file after another (`parallel_scan_eq_sequential`).
-/

namespace WinrtLint.Source.Scanner

open Relation

/-! ## The pool -/

/-- Files on their way through a pool of workers. -/
structure Pool where
  /-- The files that no worker has taken, in the order of the list. -/
  waiting : List Files.Path
  /-- The files that are being scanned. -/
  running : List Files.Path
  /-- The scans that have ended and are not collected. -/
  ended : List FileScan
  /-- The scans that are collected, in order of collection. -/
  collected : List FileScan

namespace Pool

/-- The pool to which a list of files has been handed. -/
def start (paths : List Files.Path) : Pool :=
  ⟨paths, [], [], []⟩

/-- Everything that was handed to the pool is collected. -/
def IsDone (pool : Pool) : Prop :=
  pool.waiting = [] ∧ pool.running = [] ∧ pool.ended = []

/-- The files in a pool, whatever has become of them. -/
def files (pool : Pool) : List Files.Path :=
  pool.waiting ++ (pool.running ++ (pool.ended ++ pool.collected).map (·.path))

/-- How many steps a pool is away from its end. -/
def remaining (pool : Pool) : Nat :=
  3 * pool.waiting.length + 2 * pool.running.length + pool.ended.length

variable (scan : Files.Path → Except FileScanError FileScan) (workers : Nat)

/-- What can happen in a pool. -/
inductive Step : Pool → Pool → Prop where
  /-- A free worker takes the next file. -/
  | take
      (path : Files.Path)
      (waiting running : List Files.Path)
      (ended collected : List FileScan)
      (free : running.length < workers) :
      Step ⟨path :: waiting, running, ended, collected⟩
        ⟨waiting, path :: running, ended, collected⟩
  /-- One of the scans ends. -/
  | finish
      (path : Files.Path)
      (waiting before after : List Files.Path)
      (ended collected : List FileScan)
      (result : FileScan)
      (scanned : scan path = .ok result) :
      Step ⟨waiting, before ++ path :: after, ended, collected⟩
        ⟨waiting, before ++ after, result :: ended, collected⟩
  /-- One of the scans that have ended is collected. -/
  | collect
      (result : FileScan)
      (waiting running : List Files.Path)
      (before after collected : List FileScan) :
      Step ⟨waiting, running, before ++ result :: after, collected⟩
        ⟨waiting, running, before ++ after, collected ++ [result]⟩

/-- One pool becomes another one step by step. -/
abbrev Run : Pool → Pool → Prop :=
  ReflTransGen (Step scan workers)

/-- A pool holds the files of a list, and of those that were scanned what the scan gives. -/
structure Accounts (paths : List Files.Path) (pool : Pool) : Prop where
  files_perm : pool.files.Perm paths
  scanned : ∀ result ∈ pool.ended ++ pool.collected, scan result.path = .ok result

variable {scan workers}

theorem accounts_start (paths : List Files.Path) :
    Accounts scan paths (start paths) where
  files_perm := by simp [files, start]
  scanned := by simp [start]

/-- A step moves one file on and leaves all others where they are. -/
theorem Step.files_perm
    {pool next : Pool}
    (named : ∀ {path result}, scan path = .ok result → result.path = path)
    (step : Step scan workers pool next) :
    next.files.Perm pool.files := by
  rw [List.perm_iff_count]
  intro file
  cases step with
  | take path waiting running ended collected free =>
      simp only [files, List.count_append, List.count_cons, List.map_append]
      omega
  | finish path waiting before after ended collected result scanned =>
      simp only [files, List.count_append, List.count_cons, List.map_append, List.map_cons,
        named scanned]
      omega
  | collect result waiting running before after collected =>
      simp only [files, List.count_append, List.count_cons, List.map_append, List.map_cons,
        List.count_nil, List.map_nil]
      omega

theorem Accounts.step
    {paths : List Files.Path}
    {pool next : Pool}
    (named : ∀ {path result}, scan path = .ok result → result.path = path)
    (accounts : Accounts scan paths pool)
    (step : Step scan workers pool next) :
    Accounts scan paths next where
  files_perm := (step.files_perm named).trans accounts.files_perm
  scanned := by
    have before := accounts.scanned
    cases step with
    | take => exact before
    | finish path waiting early late ended collected result scanned =>
        rw [List.cons_append, List.forall_mem_cons, named scanned]
        exact ⟨scanned, before⟩
    | collect result waiting running early late collected =>
        intro other among
        apply before other
        simp only [List.mem_append, List.mem_cons, List.not_mem_nil, or_false] at among ⊢
        tauto

theorem Accounts.run
    {paths : List Files.Path}
    {pool next : Pool}
    (named : ∀ {path result}, scan path = .ok result → result.path = path)
    (accounts : Accounts scan paths pool)
    (run : Run scan workers pool next) :
    Accounts scan paths next := by
  induction run with
  | refl => exact accounts
  | tail _ step induction => exact induction.step named step

/-! ## Every run can be brought to its end -/

theorem Step.remaining_eq
    {pool next : Pool}
    (step : Step scan workers pool next) :
    pool.remaining = next.remaining + 1 := by
  cases step <;> simp only [remaining, List.length_append, List.length_cons] <;> omega

theorem isDone_iff {pool : Pool} : pool.IsDone ↔ pool.remaining = 0 := by
  rw [IsDone, remaining, ← List.length_eq_zero_iff, ← List.length_eq_zero_iff,
    ← List.length_eq_zero_iff]
  omega

/-- A pool that is not done can take a step, since some worker is free or at work. -/
theorem exists_step
    {paths : List Files.Path}
    {pool : Pool}
    (succeed : ∀ path ∈ paths, ∃ result, scan path = .ok result)
    (staffed : 0 < workers)
    (accounts : Accounts scan paths pool)
    (unfinished : ¬ pool.IsDone) :
    ∃ next, Step scan workers pool next := by
  rcases pool with ⟨waiting, running, ended, collected⟩
  cases ended with
  | cons result rest => exact ⟨_, .collect result waiting running [] rest collected⟩
  | nil =>
      cases running with
      | cons path rest =>
          have handed : path ∈ paths := accounts.files_perm.subset (by simp [files])
          rcases succeed path handed with ⟨result, scanned⟩
          exact ⟨_, .finish path waiting [] rest [] collected result scanned⟩
      | nil =>
          cases waiting with
          | cons path rest => exact ⟨_, .take path rest [] [] collected staffed⟩
          | nil => exact absurd ⟨rfl, rfl, rfl⟩ unfinished

/-- Wherever a pool stands, it can go on until it is done. -/
theorem exists_done
    {paths : List Files.Path}
    {pool : Pool}
    (named : ∀ {path result}, scan path = .ok result → result.path = path)
    (succeed : ∀ path ∈ paths, ∃ result, scan path = .ok result)
    (staffed : 0 < workers)
    (accounts : Accounts scan paths pool) :
    ∃ last, Run scan workers pool last ∧ last.IsDone := by
  -- Each step lowers what remains by one, and nothing remains only of a pool that is done.
  induction left : pool.remaining generalizing pool with
  | zero => exact ⟨pool, .refl, isDone_iff.2 left⟩
  | succ count induction =>
      have unfinished : ¬ pool.IsDone := by
        rw [isDone_iff]
        omega
      rcases exists_step succeed staffed accounts unfinished with ⟨next, step⟩
      have fewer : next.remaining = count := by
        have one := step.remaining_eq
        omega
      rcases induction (accounts.step named step) fewer with ⟨last, run, done⟩
      exact ⟨last, .head step run, done⟩

/-! ## Every order is that of a run -/

/-- One worker can scan all files that wait before anything is collected. -/
theorem run_scans
    {paths : List Files.Path}
    {results : List FileScan}
    (scanned : List.Forall₂ (fun path result => scan path = .ok result) paths results)
    (staffed : 0 < workers)
    (ended : List FileScan) :
    Run scan workers ⟨paths, [], ended, []⟩ ⟨[], [], results.reverse ++ ended, []⟩ := by
  induction scanned generalizing ended with
  | nil => exact .refl
  | @cons path result rest others done _ induction =>
      have taken : Step scan workers ⟨path :: rest, [], ended, []⟩ ⟨rest, [path], ended, []⟩ :=
        .take path rest [] ended [] staffed
      have finished : Step scan workers ⟨rest, [path], ended, []⟩ ⟨rest, [], result :: ended, []⟩ :=
        .finish path rest [] [] ended [] result done
      rw [List.reverse_cons, List.append_assoc, List.singleton_append]
      exact .head taken (.head finished (induction (result :: ended)))

/-- Scans that have ended can be collected in every order. -/
theorem run_collects
    {order ended : List FileScan}
    (rearranged : order.Perm ended)
    (collected : List FileScan) :
    Run scan workers ⟨[], [], ended, collected⟩ ⟨[], [], [], collected ++ order⟩ := by
  induction order generalizing ended collected with
  | nil =>
      rw [List.nil_perm.1 rearranged, List.append_nil]
  | cons result rest induction =>
      rcases List.append_of_mem (rearranged.subset List.mem_cons_self) with ⟨before, after, rfl⟩
      have others : rest.Perm (before ++ after) :=
        (rearranged.trans List.perm_middle).cons_inv
      have step : Step scan workers ⟨[], [], before ++ result :: after, collected⟩
          ⟨[], [], before ++ after, collected ++ [result]⟩ :=
        .collect result [] [] before after collected
      have further := induction others (collected ++ [result])
      rw [List.append_assoc, List.singleton_append] at further
      exact .head step further

/-- Every order of the files is one in which some run collects their scans. -/
theorem exists_run
    {paths order : List Files.Path}
    (rearranged : order.Perm paths)
    (succeed : ∀ path ∈ paths, ∃ result, scan path = .ok result)
    (staffed : 0 < workers) :
    ∃ results, order.mapM scan = .ok results ∧
      Run scan workers (start paths) ⟨[], [], [], results⟩ := by
  rcases Outcome.exists_mapM succeed with ⟨sequential, done⟩
  have paired := Outcome.mapM_eq_ok_iff.1 done
  rcases List.perm_comp_forall₂ rearranged paired with ⟨results, inOrder, same⟩
  refine ⟨results, Outcome.mapM_eq_ok_iff.2 inOrder, ?_⟩
  have scans := run_scans paired staffed []
  have collects :
      Run scan workers ⟨[], [], sequential.reverse ++ [], []⟩ ⟨[], [], [], results⟩ := by
    refine run_collects ?_ []
    rw [List.append_nil]
    exact same.trans (List.reverse_perm _).symm
  exact scans.trans collects

end Pool

/-! ## The findings -/

section Findings

variable (scanner : Scanner) (grammar : Grammar) (files : Files.Node)

/-- The findings in the file at a path. -/
def findingsIn (path : Files.Path) : List Diagnostic :=
  match scanner.scanFile grammar files path with
  | .ok result => result.findings
  | .error _ => []

variable {scanner grammar files}

theorem path_of_scanFile
    {path : Files.Path}
    {result : FileScan}
    (scanned : scanner.scanFile grammar files path = .ok result) :
    result.path = path := by
  rw [scanFile] at scanned
  split at scanned
  · split at scanned
    · cases scanned
    · cases scanned
      rfl
  · split at scanned
    · cases scanned
    · cases scanned
      rfl

/-- Among finished scans a file has the findings that are in it, however often it was scanned. -/
theorem findingsOf_eq
    {finished : List FileScan}
    {path : Files.Path}
    (scanned : ∀ result ∈ finished, scanner.scanFile grammar files result.path = .ok result)
    (listed : path ∈ finished.map (·.path)) :
    findingsOf finished path = scanner.findingsIn grammar files path := by
  rw [findingsOf]
  cases found : finished.reverse.find? fun scan => scan.path = path with
  | none =>
      rcases List.mem_map.1 listed with ⟨result, among, rfl⟩
      have missed := List.find?_eq_none.1 found result (List.mem_reverse.2 among)
      exact absurd (decide_eq_true rfl) missed
  | some result =>
      -- Of the scans of one path the last collected counts, but all of them gave the same.
      have passed := List.find?_some found
      have here : result.path = path := of_decide_eq_true passed
      have done := scanned result (List.mem_reverse.1 (List.mem_of_find?_eq_some found))
      rw [findingsIn, ← here, done]

/-- The order in which scans finished does not count. -/
theorem findings_arrange
    {finished : List FileScan}
    {paths : List Files.Path}
    (scanned : ∀ result ∈ finished, scanner.scanFile grammar files result.path = .ok result)
    (complete : ∀ path ∈ paths, path ∈ finished.map (·.path)) :
    (arrange finished paths).findings = paths.flatMap (scanner.findingsIn grammar files) :=
  List.flatMap_congr fun path listed => findingsOf_eq scanned (complete path listed)

/-- Once a pool is done, it has collected the findings in the files of the list. -/
theorem findings_of_done
    {paths : List Files.Path}
    {pool : Pool}
    (accounts : Pool.Accounts (scanner.scanFile grammar files) paths pool)
    (done : pool.IsDone) :
    (arrange pool.collected paths).findings =
      paths.flatMap (scanner.findingsIn grammar files) := by
  rcases pool with ⟨waiting, running, ended, collected⟩
  rcases done with ⟨rfl, rfl, rfl⟩
  refine findings_arrange accounts.scanned ?_
  intro path listed
  simpa [Pool.files] using accounts.files_perm.symm.subset listed

end Findings

/--
Several workers find what one scan after another finds.  Provided that no scan
of a listed file fails, the findings of a sequential scan are those in the files
one file behind the other; a scan of the files in any other order gives the same
findings; and so does every pool of workers to which the list is handed, which
gets done wherever it stands.
-/
theorem parallel_scan_eq_sequential
    {scanner : Scanner}
    {grammar : Grammar}
    {files : Files.Node}
    {paths : List Files.Path}
    {jobs : Nat}
    (several : 1 < jobs)
    (succeed : ∀ path ∈ paths, ∃ result, scanner.scanFile grammar files path = .ok result) :
    ∃ sequential, scanner.scanFiles grammar files paths = .ok sequential ∧
      sequential.findings = paths.flatMap (scanner.findingsIn grammar files) ∧
      (∀ order, order.Perm paths → ∃ result,
        scanner.scanFilesIn order grammar files paths = .ok result ∧
        result.findings = sequential.findings) ∧
      ∀ pool, Pool.Run (scanner.scanFile grammar files) jobs (.start paths) pool →
        (pool.IsDone → (arrange pool.collected paths).findings = sequential.findings) ∧
        ∃ last, Pool.Run (scanner.scanFile grammar files) jobs pool last ∧ last.IsDone := by
  have staffed : 0 < jobs := Nat.zero_lt_of_lt several
  have inOrder : ∀ order, order.Perm paths → ∃ result,
      scanner.scanFilesIn order grammar files paths = .ok result ∧
      result.findings = paths.flatMap (scanner.findingsIn grammar files) := by
    intro order rearranged
    rcases Pool.exists_run rearranged succeed staffed with ⟨results, scanned, run⟩
    have accounts := (Pool.accounts_start paths).run path_of_scanFile run
    refine ⟨arrange results paths, ?_, findings_of_done accounts ⟨rfl, rfl, rfl⟩⟩
    rw [scanFilesIn, scanned]
    rfl
  rcases inOrder paths (.refl paths) with ⟨sequential, done, findings⟩
  refine ⟨sequential, done, findings, ?_, ?_⟩
  · intro order rearranged
    rw [findings]
    exact inOrder order rearranged
  · intro pool run
    have accounts := (Pool.accounts_start paths).run path_of_scanFile run
    refine ⟨?_, Pool.exists_done path_of_scanFile succeed staffed accounts⟩
    intro finished
    rw [findings]
    exact findings_of_done accounts finished

/-! ## Two sample files -/

/-- A working directory with two files of the sample source. -/
def twoFiles : Files.Node :=
  .folder [("A.cs", .file sampleSource), ("B.cs", .file sampleSource)]

/-- The path of a file in the working directory. -/
def fileAt (name : String) : Files.Path :=
  ⟨"", [name]⟩

/-- The finding in a file of the sample source. -/
def foundIn (name : String) : Diagnostic :=
  ⟨.appOnly, ⟨name, 0, 0, some 0, some 21, true⟩, ["Sample.Counter"]⟩

theorem scanFile_twoFiles
    {name : String}
    (stored : twoFiles.read (fileAt name) = .ok sampleSource)
    (shown : (fileAt name).text = name)
    (analyzed : (sampleScanner.analyzer.analyze .csharp (sampleScanner.host name sampleRoot)
      (candidates sampleRoot)).toOption = some [foundIn name]) :
    sampleScanner.scanFile (fun _ => sampleRows) twoFiles (fileAt name) =
      .ok ⟨fileAt name, [], [foundIn name]⟩ := by
  have scanned : sampleScanner.scan name sampleRoot = .ok [foundIn name] := by
    cases outcome : sampleScanner.analyzer.analyze .csharp (sampleScanner.host name sampleRoot)
        (candidates sampleRoot) with
    | error failure =>
        rw [outcome] at analyzed
        cases analyzed
    | ok findings =>
        rw [outcome] at analyzed
        cases analyzed
        rw [host] at outcome
        rw [scan, outcome, Outcome.ok_bind, List.mergeSort_singleton]
        rfl
  rw [scanFile, stored]
  simp only [shown, scanSource, ofRows?_sampleRows, scanned]

/-- The findings of three scans that end in another order than that of the list. -/
theorem parallel_scan_eq_sequential_twoFiles :
    ∃ result,
      sampleScanner.scanFilesIn [fileAt "B.cs", fileAt "A.cs", fileAt "A.cs"]
        (fun _ => sampleRows) twoFiles [fileAt "A.cs", fileAt "B.cs", fileAt "A.cs"] =
          .ok result ∧
      result.findings = [foundIn "A.cs", foundIn "B.cs", foundIn "A.cs"] := by
  have stored : twoFiles.read (fileAt "A.cs") = .ok sampleSource := rfl
  have alsoStored : twoFiles.read (fileAt "B.cs") = .ok sampleSource := rfl
  have first := scanFile_twoFiles stored (by decide) (by decide +kernel)
  have second := scanFile_twoFiles alsoStored (by decide) (by decide +kernel)
  have succeed : ∀ path ∈ [fileAt "A.cs", fileAt "B.cs", fileAt "A.cs"], ∃ result,
      sampleScanner.scanFile (fun _ => sampleRows) twoFiles path = .ok result := by
    simp only [List.forall_mem_cons]
    exact ⟨⟨_, first⟩, ⟨_, second⟩, ⟨_, first⟩, fun _ none => absurd none List.not_mem_nil⟩
  rcases parallel_scan_eq_sequential (show 1 < 2 by decide) succeed with
    ⟨sequential, -, findings, anyOrder, -⟩
  rcases anyOrder [fileAt "B.cs", fileAt "A.cs", fileAt "A.cs"] (by decide) with
    ⟨result, done, same⟩
  refine ⟨result, done, ?_⟩
  rw [same, findings]
  simp only [List.flatMap_cons, List.flatMap_nil, findingsIn, first, second]
  rfl

end WinrtLint.Source.Scanner
