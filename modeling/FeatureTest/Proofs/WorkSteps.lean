import FeatureTest.Command.Session
import FeatureTest.World

/-!
What each request of a command does on a machine that is a value, and how pieces of a command follow
one another there.
-/
namespace FeatureTest.World

variable {α β : Type} {w next : World}

/-- What a piece of a command comes to on a machine, and the machine after it. -/
def perform (w : World) (work : Work (StateM World) α) : Except CommandError α × World :=
  work.run.run w

/-- The machine with other files, after commands were run, lines printed and events reported. -/
def advanced (w : World) (files : FileTree) (commands : List (List String)) (lines : List String)
    (events : List Log.Event) : World :=
  { w with
    files
    commands := w.commands ++ commands
    output := w.output ++ String.join (lines.map (· ++ "\n"))
    reports := w.reports ++ events.map .event }

@[simp] theorem advanced_files (w : World) (files : FileTree) (commands : List (List String))
    (lines : List String) (events : List Log.Event) :
    (w.advanced files commands lines events).files = files := rfl

theorem advanced_nothing (w : World) : w.advanced w.files [] [] [] = w := by
  simp [advanced]

theorem advanced_advanced (w : World) (files files' : FileTree)
    (commands commands' : List (List String)) (lines lines' : List String)
    (events events' : List Log.Event) :
    (w.advanced files commands lines events).advanced files' commands' lines' events' =
      w.advanced files' (commands ++ commands') (lines ++ lines') (events ++ events') := by
  simp [advanced, String.join_append, String.append_assoc]

theorem perform_pure (w : World) (a : α) : w.perform (pure a) = (.ok a, w) := rfl

theorem perform_throw (w : World) (e : CommandError) :
    w.perform (throw e : Work (StateM World) α) = (.error e, w) := rfl

theorem perform_bind_of_ok {work : Work (StateM World) α} {a : α}
    (h : w.perform work = (.ok a, next)) (f : α → Work (StateM World) β) :
    w.perform (work >>= f) = next.perform (f a) := by
  unfold perform at h ⊢
  rw [ExceptT.run_bind, StateT.run_bind, h]
  rfl

theorem perform_bind_of_error {work : Work (StateM World) α} {e : CommandError}
    (h : w.perform work = (.error e, next)) (f : α → Work (StateM World) β) :
    w.perform (work >>= f) = (.error e, next) := by
  unfold perform at h ⊢
  rw [ExceptT.run_bind, StateT.run_bind, h]
  rfl

theorem perform_discard_of_ok {work : Work (StateM World) α} {a : α}
    (h : w.perform work = (.ok a, next)) : w.perform (discard work) = (.ok (), next) := by
  rw [discard, map_const, Function.comp_apply, ← bind_pure_comp]
  exact perform_bind_of_ok h _

theorem perform_discard_of_error {work : Work (StateM World) α} {e : CommandError}
    (h : w.perform work = (.error e, next)) : w.perform (discard work) = (.error e, next) := by
  rw [discard, map_const, Function.comp_apply, ← bind_pure_comp]
  exact perform_bind_of_error h _

section Results

variable {ε : Type} {result : Except ε α} {toError : ε → CommandError}

theorem perform_of_except_ok {a : α} (h : result = .ok a) :
    w.perform (Work.ofExcept toError result) = (.ok a, w) := by
  rw [h]
  rfl

theorem perform_of_except_error {e : ε} (h : result = .error e) :
    w.perform (Work.ofExcept toError result) = (.error (toError e), w) := by
  rw [h]
  rfl

end Results

theorem perform_print_line (w : World) (line : String) :
    w.perform (Work.printLine line) = (.ok (), w.advanced w.files [] [line] []) := by
  have hrun : w.perform (Work.printLine line) =
      (.ok (), { w with output := w.output ++ (line ++ "\n") }) := rfl
  simp [hrun, advanced]

theorem perform_log (w : World) (events : List Log.Event) :
    w.perform (Work.log events) = (.ok (), w.advanced w.files [] [] events) := by
  induction events generalizing w with
  | nil =>
    rw [advanced_nothing]
    rfl
  | cons event rest ih =>
    have hfirst : w.perform (Host.log (m := StateM World) event) =
        (.ok (), w.advanced w.files [] [] [event]) := by
      have hrun : w.perform (Host.log (m := StateM World) event) =
          (.ok (), { w with reports := w.reports ++ [.event event] }) := rfl
      simp [hrun, advanced]
    have hrest := ih (w.advanced w.files [] [] [event])
    rw [advanced_advanced] at hrest
    unfold Work.log at hrest ⊢
    change w.perform (_ >>= fun _ => rest.forM _) = _
    rw [perform_bind_of_ok hfirst]
    exact hrest

theorem perform_ask {request : StateM World (Except FileError α)} {result : Except FileError α}
    (h : request.run w = (result, next)) (toError : FileError → CommandError) :
    w.perform (Work.ask toError request) = (result.mapError toError, next) := by
  have hlift : w.perform (liftM request) = (.ok result, next) := by
    have hmap : w.perform (liftM request) = ((.ok <$> request : StateM World _).run w) := rfl
    rw [hmap, StateT.run_map, h]
    rfl
  unfold Work.ask
  rw [perform_bind_of_ok hlift]
  cases result <;> rfl

theorem perform_read_text_of_ok {path text : String} (h : w.files.readText path = .ok text) :
    w.perform (Work.readText path) = (.ok text, w) :=
  perform_ask (congrArg (·, w) h) _

theorem perform_read_text_of_error {path : String} {e : FileError}
    (h : w.files.readText path = .error e) :
    w.perform (Work.readText path) = (.error (.read path e), w) :=
  perform_ask (congrArg (·, w) h) _

theorem perform_write_text (w : World) (path text : String) :
    w.perform (Work.writeText path text) = ((w.save path text).1.mapError (.write path),
      w.advanced (w.save path text).2 [] [] []) := by
  have hrun : (Host.writeText path text : StateM World _).run w =
      ((w.save path text).1, { w with files := (w.save path text).2 }) := rfl
  unfold Work.writeText
  rw [perform_ask hrun]
  simp [advanced]

/-- Where nothing stops the device a write ends as that of a whole text does. -/
theorem save_eq_ok {path text : String} {files : FileTree} (hd : w.fault path text = none)
    (h : w.files.writeText path text = .ok files) : w.save path text = (.ok (), files) := by
  unfold FileTree.writeText at h
  simp only [save, hd, h]

theorem perform_write_text_of_ok {path text : String} {files : FileTree}
    (hd : w.fault path text = none) (h : w.files.writeText path text = .ok files) :
    w.perform (Work.writeText path text) = (.ok (), w.advanced files [] [] []) := by
  rw [perform_write_text, save_eq_ok hd h]
  rfl

theorem perform_create_directories_of_ok {path : String} {files : FileTree}
    (h : w.files.createDirectories path = .ok files) :
    w.perform (Work.createDirectories path) = (.ok (), w.advanced files [] [] []) := by
  have hrun : (Host.createDirectories path : StateM World _).run w =
      (.ok (), { w with files }) := by
    change changeFiles (·.createDirectories path) w = _
    rw [changeFiles, h]
  have hfiles : { w with files } = w.advanced files [] [] [] := by
    simp [advanced]
  unfold Work.createDirectories
  rw [perform_ask hrun, hfiles]
  rfl

theorem perform_compile (w : World) (toError : FileError → CommandError) (command : List String) :
    w.perform (Work.ask toError (Host.compile command)) =
      ((w.compile w.files command).mapError toError, w.advanced w.files [command] [] []) := by
  have hrun : (Host.compile command : StateM World _).run w =
      (w.compile w.files command, { w with commands := w.commands ++ [command] }) := rfl
  rw [perform_ask hrun]
  simp [advanced]

end FeatureTest.World
