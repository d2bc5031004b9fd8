import Moltbunker.Lib.Text

/-!
# The log of a container

The writers of `internal/runtime/logs.go`, composed with `io.Copy`, through which `StartContainer`
connects them to the streams of a container. A writer puts the time before each chunk and returns
the length of what it wrote; `io.Copy` takes a count above the length of the chunk for an invalid
write and stops.

* `copy_logged_iff` — the log gets every chunk exactly when there is no second one;
* `second_chunk_lost` — the second chunk of a container is not logged.
-/

namespace Moltbunker.Runtime

open Lib

abbrev Bytes := List UInt8

/-- What `io.Copy` reads at once, after the time at which it would be logged. -/
abbrev Read := Bytes × Bytes

/-- The stream that a `logWriter` is for. -/
inductive Stream where
  | stdout
  | stderr

/-- Why a copy stops: the error of the writer, or one of `io`. -/
inductive CopyError where
  | write (message : Text)
  | invalidWrite
  | shortWrite

/-- `ContainerLog`: what its files hold, where they are open. They accept every write. -/
structure ContainerLog where
  stdoutFile : Option (Bytes)
  stderrFile : Option (Bytes)

/-- `fmt.Sprintf("[%s] %s", timestamp, string(data))` -/
def logLine (timestamp data : Bytes) : Bytes := 0x5B :: timestamp ++ [0x5D, 0x20] ++ data

namespace ContainerLog

variable (log : ContainerLog)

/-- The file of a stream. -/
def file : Stream → Option (Bytes)
  | .stdout => log.stdoutFile
  | .stderr => log.stderrFile

/-- Write the file of a stream. -/
def setFile (content : Bytes) : Stream → ContainerLog
  | .stdout => { log with stdoutFile := some content }
  | .stderr => { log with stderrFile := some content }

/-- The common body of `WriteStdout` and `WriteStderr`, with the count and the error. -/
def writeLine (stream : Stream) (notOpen : Text) (timestamp data : Bytes) :
    ContainerLog × ℕ × Option CopyError :=
  match log.file stream with
  | none => (log, 0, some (.write notOpen))
  | some content =>
    (log.setFile (content ++ logLine timestamp data) stream, (logLine timestamp data).length, none)

/-- `WriteStdout` -/
def writeStdout : Bytes → Bytes → ContainerLog × ℕ × Option CopyError :=
  log.writeLine .stdout (text "stdout log not open")

/-- `WriteStderr` -/
def writeStderr : Bytes → Bytes → ContainerLog × ℕ × Option CopyError :=
  log.writeLine .stderr (text "stderr log not open")

/-- `logWriter.Write` -/
def write : Stream → Bytes → Bytes → ContainerLog × ℕ × Option CopyError
  | .stdout => log.writeStdout
  | .stderr => log.writeStderr

/-- `io.Copy` into the writer of a stream. An empty read is not written. -/
def copy (stream : Stream) : ContainerLog → List Read → ContainerLog × Option CopyError
  | log, [] => (log, none)
  | log, (timestamp, chunk) :: reads =>
    if chunk.length > 0 then
      let (log', count, err) := log.write stream timestamp chunk
      let (written, err) :=
        if chunk.length < count then (0, err.or (some .invalidWrite)) else (count, err)
      if err.isSome then (log', err)
      else if chunk.length ≠ written then (log', some .shortWrite)
      else copy stream log' reads
    else copy stream log reads

end ContainerLog

/-- The reads that `io.Copy` writes. -/
def chunks (reads : List Read) : List Read := reads.filter fun read => read.2.length > 0

/-- The lines of reads. -/
def logLines (reads : List Read) : Bytes := reads.flatMap fun read => logLine read.1 read.2

variable {log : ContainerLog} {stream : Stream} {content timestamp data : Bytes}

lemma length_logLine : (logLine timestamp data).length = timestamp.length + data.length + 3 := by
  simp only [logLine, List.cons_append, List.length_cons, List.length_append, List.length_nil]
  omega

@[simp] lemma ContainerLog.file_setFile : (log.setFile content stream).file stream =
    some content := by
  cases stream <;> rfl

lemma ContainerLog.write_eq (hopen : log.file stream = some content) :
    log.write stream timestamp data =
      (log.setFile (content ++ logLine timestamp data) stream, (logLine timestamp data).length,
        none) := by
  cases stream <;> simp [write, writeStdout, writeStderr, writeLine, hopen]

/-- The copy writes the first chunk and stops. -/
lemma ContainerLog.copy_file (hopen : log.file stream = some content)
    (reads : List Read) :
    (log.copy stream reads).1.file stream = some (content ++ logLines ((chunks reads).take 1)) := by
  induction reads with
  | nil => simp [copy, chunks, logLines, hopen]
  | cons read reads ih =>
    obtain ⟨timestamp, chunk⟩ := read
    unfold copy
    by_cases hpos : chunk.length > 0
    · -- the line is longer than the chunk, which is an invalid write
      have hlong : chunk.length < (logLine timestamp chunk).length := by
        rw [length_logLine]
        omega
      simp [write_eq hopen, hpos, hlong, chunks, logLines]
    · rw [if_neg hpos, ih]
      simp [chunks, hpos]

/-- **When the output reaches the log**: when there are not two chunks of it. -/
theorem copy_logged_iff (hopen : log.file stream = some content)
    (reads : List Read) :
    (log.copy stream reads).1.file stream = some (content ++ logLines (chunks reads)) ↔
      (chunks reads).length ≤ 1 := by
  rw [ContainerLog.copy_file hopen]
  match chunks reads with
  | [] | [read] => simp
  | first :: second :: rest =>
    refine iff_of_false (fun h => ?_) (by simp)
    have hlong : (logLine second.1 second.2).length = _ := length_logLine
    have hlen := congrArg List.length (Option.some.inj h)
    simp only [logLines, List.take_succ_cons, List.take_zero, List.flatMap_cons, List.flatMap_nil,
      List.length_append, List.length_nil] at hlen
    omega

/-- An empty log. -/
def ContainerLog.created : ContainerLog := ⟨some [], some []⟩

theorem copy_logged_once :
    (ContainerLog.created.copy .stdout [([49], [104, 105])]).1.file .stdout =
      some ([] ++ logLines (chunks [([49], [104, 105])])) :=
  (copy_logged_iff rfl _).mpr (by decide)

/-- **The second chunk is lost.** A container writes `hi` twice, and the log has it once. -/
theorem second_chunk_lost :
    (ContainerLog.created.copy .stdout [([49], [104, 105]), ([50], [104, 105])]).1.file .stdout =
        some (logLine [49] [104, 105]) ∧
      (ContainerLog.created.copy .stdout [([49], [104, 105]), ([50], [104, 105])]).1.file .stdout ≠
        some (logLine [49] [104, 105] ++ logLine [50] [104, 105]) := by
  decide

end Moltbunker.Runtime
