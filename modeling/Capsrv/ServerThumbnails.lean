import Capsrv.ServerObjects

/-! # The thumbnails of a server

To its clients the overlay holder is two registers. Over any run of the server a
thumbnail that is read is the one of its type that was set last.
-/

namespace Capsrv

open Server Process

/-! ## What a client reads -/

namespace OverlayThumbnailHolder

def thumbnail (type : OverlayType) (holder : OverlayThumbnailHolder) : OverlayThumbnail :=
  ⟨(holder.data type).fileId, overlayBufferSize, (holder.data type).buffer⟩

/-- Nobody has to wait, and these are the thumbnails that can be read. -/
structure Shows (thumbnails : OverlayType → OverlayThumbnail) (holder : OverlayThumbnailHolder) :
    Prop where
  free : ∀ type, (holder.data type).status = .free
  shown : ∀ type, holder.thumbnail type = thumbnails type

end OverlayThumbnailHolder

/-- The thumbnail before any is set, white and of no file. -/
def whiteThumbnail : OverlayThumbnail :=
  ⟨.zero, overlayBufferSize, List.replicate overlayBufferSize 0xff⟩

/-- What is set with a buffer. One that is too short is refused. -/
def thumbnailIn (buffer : List UInt8) (fileId : AlbumFileId) : Option OverlayThumbnail :=
  if overlayBufferSize ≤ buffer.length then
    some ⟨fileId, overlayBufferSize, buffer.take overlayBufferSize⟩
  else none

/-- The reply to a client with a buffer of this size. -/
def readingReply (outBufferSize : Nat) (thumbnail : OverlayThumbnail) : Reply :=
  rUnless (overlayBufferSize ≤ outBufferSize) (.error albumReadBufferShortage.result)
    (.ok (.thumbnail thumbnail))

namespace ServerCommand

/-- The thumbnail of a type that a command sets. -/
def thumbnailSet (type : OverlayType) : ServerCommand → Option OverlayThumbnail
  | control (.setOverlayScreenShotThumbnailData buffer fileId) =>
      if type = .screenshot then thumbnailIn buffer fileId else none
  | control (.setOverlayMovieThumbnailData buffer fileId) =>
      if type = .movie then thumbnailIn buffer fileId else none
  | _ => none

/-- The type and the room of a command that reads a thumbnail. -/
def thumbnailRead : ServerCommand → Option (OverlayType × Nat)
  | accessor (.getLastOverlayScreenShotThumbnail outBufferSize) =>
      some (.screenshot, outBufferSize)
  | accessor (.getLastOverlayMovieThumbnail outBufferSize) => some (.movie, outBufferSize)
  | _ => none

end ServerCommand

namespace ServerMessage

def thumbnailSet (environment : Environment) (type : OverlayType) (message : ServerMessage) :
    Option OverlayThumbnail :=
  match message.dispatch environment with
  | .refused _ => none
  | .malformed _ => none
  | .called command => command.thumbnailSet type

def thumbnailRead (environment : Environment) (message : ServerMessage) :
    Option (OverlayType × Nat) :=
  match message.dispatch environment with
  | .refused _ => none
  | .malformed _ => none
  | .called command => command.thumbnailRead

end ServerMessage

/-- The last thumbnail of a type that messages set. -/
def lastThumbnail (environment : Environment) (messages : List ServerMessage)
    (type : OverlayType) : OverlayThumbnail :=
  (messages.filterMap (ServerMessage.thumbnailSet environment type)).getLastD whiteThumbnail

theorem lastThumbnail_snoc (environment : Environment) (messages : List ServerMessage)
    (message : ServerMessage) (type : OverlayType) :
    lastThumbnail environment (messages ++ [message]) type =
      (message.thumbnailSet environment type).getD (lastThumbnail environment messages type) := by
  rw [lastThumbnail, List.filterMap_append]
  cases set : message.thumbnailSet environment type with
  | none =>
      rw [List.filterMap_cons_none set, List.filterMap_nil, List.append_nil]
      rfl
  | some thumbnail =>
      rw [List.filterMap_cons_some set, List.filterMap_nil, List.getLastD_concat]
      rfl

theorem OverlayThumbnailHolder.shows_initialized :
    OverlayThumbnailHolder.initialized.Shows fun _ => whiteThumbnail :=
  ⟨fun _ => rfl, fun _ => rfl⟩

/-! ## Handlers -/

section

variable {environment : Environment} {server next reached : Server} {reply : Reply}
  {thumbnails : OverlayType → OverlayThumbnail}

theorem OverlayThumbnailHolder.Shows.not_occupied {holder : OverlayThumbnailHolder}
    (shows : holder.Shows thumbnails) (type : OverlayType) :
    (holder.data type).status ≠ .occupied := by
  rw [shows.free type]
  decide

/-- The three calls that set a thumbnail. -/
theorem OverlayThumbnailHolder.Shows.set {holder : OverlayThumbnailHolder}
    (shows : holder.Shows thumbnails) (type : OverlayType) (pixels : List UInt8)
    (fileId : AlbumFileId) :
    (((holder.setData type { holder.data type with fileId }).copyPixels pixels type).signal
      type).Shows (Function.update thumbnails type ⟨fileId, overlayBufferSize, pixels⟩) := by
  constructor
  · intro other
    by_cases same : other = type
    · rw [same, signal, setData_same]
    · rw [signal, setData_of_ne same, copyPixels, setData_of_ne same, setData_of_ne same]
      exact shows.free other
  · intro other
    by_cases same : other = type
    · rw [same, thumbnail, signal, setData_same, copyPixels, setData_same, setData_same,
        Function.update_self]
    · rw [thumbnail, signal, setData_of_ne same, copyPixels, setData_of_ne same,
        setData_of_ne same, Function.update_of_ne same]
      exact shows.shown other

/-- The thumbnail of one type is replaced, if there is another. -/
theorem elim_update_eq (set : Option OverlayThumbnail) (type : OverlayType) :
    set.elim thumbnails (Function.update thumbnails type) =
      fun other => (if other = type then set else none).getD (thumbnails other) := by
  funext other
  by_cases same : other = type
  · rw [if_pos same, same]
    cases set with
    | none => rfl
    | some thumbnail => exact Function.update_self type thumbnail thumbnails
  · rw [if_neg same]
    cases set with
    | none => rfl
    | some thumbnail => exact Function.update_of_ne same thumbnail thumbnails

theorem setOverlayThumbnailData_eq (shows : server.overlay.Shows thumbnails) (type : OverlayType)
    {buffer : List UInt8} (long : overlayBufferSize ≤ buffer.length) (fileId : AlbumFileId) :
    AlbumControlService.setOverlayThumbnailData type buffer fileId server =
      (some (.ok .nothing), { server with
        overlay := ((server.overlay.setData type
          { server.overlay.data type with fileId }).copyPixels (buffer.take overlayBufferSize)
            type).signal type }) := by
  have buffered : server.overlay.getOverlayBuffer fileId type =
      some (server.overlay.setData type { server.overlay.data type with fileId }) :=
    if_neg (shows.not_occupied type)
  have taken : overlayPart.focus (awaited fun holder =>
      (holder.getOverlayBuffer fileId type).map fun next => ((), next)) server =
        (some (), { server with
          overlay := server.overlay.setData type { server.overlay.data type with fileId } }) := by
    simp only [Part.focus, awaited, overlayPart, buffered, Option.map_some]
  rw [AlbumControlService.setOverlayThumbnailData, rUnless, if_pos long, bind_of_eq_some taken]
  rfl

theorem setOverlayThumbnailData_shows (shows : server.overlay.Shows thumbnails)
    (type : OverlayType) (buffer : List UInt8) (fileId : AlbumFileId) :
    (AlbumControlService.setOverlayThumbnailData type buffer fileId server).2.overlay.Shows
      fun other => (if other = type then thumbnailIn buffer fileId else none).getD
        (thumbnails other) := by
  rw [← elim_update_eq, thumbnailIn]
  split
  case isTrue long =>
    rw [setOverlayThumbnailData_eq shows type long]
    exact shows.set type (buffer.take overlayBufferSize) fileId
  case isFalse short =>
    rw [AlbumControlService.setOverlayThumbnailData, rUnless, if_neg short]
    exact shows

theorem getLastOverlayThumbnail_eq (shows : server.overlay.Shows thumbnails)
    (type : OverlayType) (outBufferSize : Nat) :
    AlbumAccessorService.getLastOverlayThumbnail outBufferSize type server =
      (some (readingReply outBufferSize (thumbnails type)), server) := by
  by_cases enough : overlayBufferSize ≤ outBufferSize
  · have read : server.overlay.getLastOverlayThumbnail outBufferSize type =
        some (.ok (thumbnails type)) := by
      rw [OverlayThumbnailHolder.getLastOverlayThumbnail, rUnless, if_pos enough,
        if_neg (shows.not_occupied type), ← shows.shown type, OverlayThumbnailHolder.thumbnail]
    have called : overlayPart.focus (awaited fun holder =>
        (holder.getLastOverlayThumbnail outBufferSize type).map fun read => (read, holder))
          server = (some (.ok (thumbnails type)), server) := by
      simp only [Part.focus, awaited, overlayPart, read, Option.map_some]
    rw [AlbumAccessorService.getLastOverlayThumbnail, bind_of_eq_some called, readingReply, rUnless,
      if_pos enough]
    exact congrFun (answer_eq _ (.success, thumbnails type)) server
  · rw [getLastOverlayThumbnail_of_short enough, readingReply, rUnless, if_neg enough, pure_apply]

/-! ## Messages -/

theorem ServerCommand.shows (environment : Environment) (command : ServerCommand)
    (shows : server.overlay.Shows thumbnails) :
    (command.perform environment server).2.overlay.Shows
      fun type => (command.thumbnailSet type).getD (thumbnails type) := by
  have elsewhere : command.object environment ≠ .overlay →
      (∀ type, command.thumbnailSet type = none) →
      (command.perform environment server).2.overlay.Shows
        fun type => (command.thumbnailSet type).getD (thumbnails type) := by
    intro different unset
    have frame : (command.perform environment server).2.overlay = server.overlay :=
      command.frame environment server different
    simp only [frame, unset, Option.getD_none]
    exact shows
  have reading : ∀ type outBufferSize,
      (AlbumAccessorService.getLastOverlayThumbnail outBufferSize type server).2.overlay.Shows
        thumbnails := by
    intro type outBufferSize
    rw [getLastOverlayThumbnail_eq shows]
    exact shows
  cases command with
  | control command =>
      cases command with
      | setOverlayScreenShotThumbnailData buffer fileId =>
          exact setOverlayThumbnailData_shows shows .screenshot buffer fileId
      | setOverlayMovieThumbnailData buffer fileId =>
          exact setOverlayThumbnailData_shows shows .movie buffer fileId
      | _ =>
          apply elsewhere
          · intro same
            cases same
          · exact fun _ => rfl
  | accessor command =>
      cases command with
      | getLastOverlayScreenShotThumbnail outBufferSize => exact reading .screenshot outBufferSize
      | getLastOverlayMovieThumbnail outBufferSize => exact reading .movie outBufferSize
      | getAlbumCache storageId =>
          apply elsewhere
          · rw [ServerCommand.object, AccessorCommand.footprint]
            split <;> decide
          · exact fun _ => rfl
      | loadMakerNoteInfoForDebug makernoteSize workSize fileId =>
          apply elsewhere
          · rw [ServerCommand.object, AccessorCommand.footprint]
            split <;> decide
          · exact fun _ => rfl
      | _ =>
          apply elsewhere
          · intro same
            cases same
          · exact fun _ => rfl
  | application command =>
      apply elsewhere
      · intro same
        cases command <;> cases same
      · exact fun _ => rfl

theorem ServerCommand.reply_of_read {command : ServerCommand}
    (shows : server.overlay.Shows thumbnails)
    (answered : command.perform environment server = (some reply, next)) {type : OverlayType}
    {outBufferSize : Nat} (read : command.thumbnailRead = some (type, outBufferSize)) :
    reply = readingReply outBufferSize (thumbnails type) := by
  have replied : ∀ type outBufferSize,
      AlbumAccessorService.getLastOverlayThumbnail outBufferSize type server =
        (some reply, next) →
      reply = readingReply outBufferSize (thumbnails type) := by
    intro type outBufferSize answered
    rw [getLastOverlayThumbnail_eq shows] at answered
    exact (Option.some.inj (Prod.mk.inj answered).1).symm
  cases command with
  | control command => cases read
  | accessor command =>
      cases command with
      | getLastOverlayScreenShotThumbnail outBufferSize =>
          cases read
          exact replied .screenshot _ answered
      | getLastOverlayMovieThumbnail outBufferSize =>
          cases read
          exact replied .movie _ answered
      | _ => cases read
  | application command => cases read

theorem perform_shows {message : ServerMessage} (shows : server.overlay.Shows thumbnails)
    (answered : message.perform environment server = (some reply, next)) :
    (next.overlay.Shows fun type =>
        (message.thumbnailSet environment type).getD (thumbnails type)) ∧
      ∀ type outBufferSize, message.thumbnailRead environment = some (type, outBufferSize) →
        reply = readingReply outBufferSize (thumbnails type) := by
  rw [ServerMessage.perform] at answered
  simp only [ServerMessage.thumbnailSet, ServerMessage.thumbnailRead]
  cases dispatched : message.dispatch environment with
  | refused rc =>
      rw [dispatched] at answered
      cases answered
      constructor
      · exact shows
      · intro type outBufferSize read
        cases read
  | malformed rc =>
      rw [dispatched] at answered
      cases answered
  | called command =>
      rw [dispatched] at answered
      replace answered : command.perform environment server = (some reply, next) := answered
      have shown := command.shows environment shows
      rw [answered] at shown
      exact ⟨shown, fun type outBufferSize => ServerCommand.reply_of_read shows answered⟩

/-! ## Runs -/

theorem history_shows {history : List (ServerMessage × Reply)}
    (fresh : server.overlay = .initialized)
    (answered : Answered (ServerMessage.perform environment) server history reached) :
    reached.overlay.Shows (lastThumbnail environment (history.map (·.1))) := by
  induction answered with
  | nil =>
      rw [fresh]
      exact OverlayThumbnailHolder.shows_initialized
  | @snoc history before next message reply earlier answered induction =>
      have shown := (perform_shows induction answered).1
      rw [List.map_append, List.map_singleton]
      convert shown using 1
      funext type
      exact lastThumbnail_snoc environment (history.map (·.1)) message type

/-- In whatever run, a thumbnail that is read has the file id and the pixels that
were set last for its type, or is the white one before any is set. Readers are refused
for a short buffer only. -/
theorem serverThumbnails {history : List (ServerMessage × Reply)}
    (fresh : server.overlay = .initialized)
    (answered : Answered (ServerMessage.perform environment) server history reached) :
    (∀ type, reached.overlay.thumbnail type =
        lastThumbnail environment (history.map (·.1)) type) ∧
      ∀ earlier message reply later, history = earlier ++ (message, reply) :: later →
        ∀ type outBufferSize, message.thumbnailRead environment = some (type, outBufferSize) →
          reply = readingReply outBufferSize
            (lastThumbnail environment (earlier.map (·.1)) type) := by
  constructor
  · exact (history_shows fresh answered).shown
  · intro earlier message reply later split
    rw [split] at answered
    rcases answered.at_entry with ⟨before, next, first, step⟩
    exact (perform_shows (history_shows fresh first) step).2

end

/-! ## Two thumbnails -/

/-- A movie and a black screenshot, and nothing for a buffer that is too short. -/
def thumbnailCommands : List ServerCommand :=
  [ .control (.setOverlayMovieThumbnailData (List.replicate overlayBufferSize 1) .zero),
    .control (.setOverlayScreenShotThumbnailData blackThumbnail.buffer savedScreenshot),
    .control (.setOverlayScreenShotThumbnailData [1] secondScreenshot) ]

def thumbnailQuestion : ServerCommand :=
  .accessor (.getLastOverlayScreenShotThumbnail overlayBufferSize)

theorem thumbnailCommands_return :
    (Process.run (ServerMessage.perform plainEnvironment)
      (thumbnailCommands.map ServerCommand.sent ++ [thumbnailQuestion.sent])
        (.around mountedService)).1 = some () := by
  decide +kernel

theorem thumbnailSet_screenshot (buffer : List UInt8) (fileId : AlbumFileId) :
    (ServerCommand.control (.setOverlayScreenShotThumbnailData buffer
      fileId)).sent.thumbnailSet plainEnvironment .screenshot = thumbnailIn buffer fileId := by
  have dispatched := @ServerCommand.dispatch_sent
    (.control (.setOverlayScreenShotThumbnailData buffer fileId)) rfl
      fun aruid unnamed => by cases unnamed
  simp only [ServerMessage.thumbnailSet, dispatched, ServerCommand.thumbnailSet, if_true]

/-- The short buffer does not replace the black one. -/
theorem lastThumbnail_thumbnailCommands :
    lastThumbnail plainEnvironment (thumbnailCommands.map ServerCommand.sent) .screenshot =
      ⟨savedScreenshot, overlayBufferSize, blackThumbnail.buffer.take overlayBufferSize⟩ := by
  have long : overlayBufferSize ≤ blackThumbnail.buffer.length := by
    rw [blackThumbnail, List.length_replicate]
  have short : ¬ overlayBufferSize ≤ [(1 : UInt8)].length := by decide
  have split : thumbnailCommands.map ServerCommand.sent =
      (thumbnailCommands.take 1).map ServerCommand.sent ++
        [(ServerCommand.control (.setOverlayScreenShotThumbnailData blackThumbnail.buffer
          savedScreenshot)).sent] ++
        [(ServerCommand.control (.setOverlayScreenShotThumbnailData [1]
          secondScreenshot)).sent] := rfl
  rw [split, lastThumbnail_snoc, thumbnailSet_screenshot, thumbnailIn, if_neg short,
    Option.getD_none, lastThumbnail_snoc, thumbnailSet_screenshot, thumbnailIn, if_pos long,
    Option.getD_some]

/-- The black screenshot is read. -/
theorem serverThumbnails_black :
    ∃ history reply, ∃ reached : Server,
      history.map (·.1) = thumbnailCommands.map ServerCommand.sent ∧
      Answered (ServerMessage.perform plainEnvironment) (.around mountedService)
        (history ++ [(thumbnailQuestion.sent, reply)]) reached ∧
      (∀ type, reached.overlay.thumbnail type = lastThumbnail plainEnvironment
        (thumbnailCommands.map ServerCommand.sent ++ [thumbnailQuestion.sent]) type) ∧
      reply = .ok (.thumbnail
        ⟨savedScreenshot, overlayBufferSize, blackThumbnail.buffer.take overlayBufferSize⟩) := by
  rcases Answered.exists_of_run thumbnailCommands_return with ⟨entries, sent, answered⟩
  rcases List.map_eq_append_iff.mp sent with ⟨history, last, rfl, earlier, asked⟩
  rcases List.map_eq_singleton_iff.mp asked with ⟨⟨message, reply⟩, rfl, same⟩
  subst same
  have run := serverThumbnails rfl answered
  rw [sent] at run
  refine ⟨history, reply, _, earlier, answered, run.1, ?_⟩
  have told := run.2 history thumbnailQuestion.sent reply [] rfl .screenshot overlayBufferSize rfl
  rw [earlier] at told
  rw [told, lastThumbnail_thumbnailCommands, readingReply, rUnless, if_pos le_rfl]

end Capsrv
