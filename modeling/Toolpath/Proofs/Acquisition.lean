import Toolpath.Loader
import Toolpath.Proofs.Decoding
import Toolpath.Proofs.Lines

/-! Neither decoding the bytes of a file nor writing its carriage returns as line feeds changes a
line of the program, so it may come from a file or from the web. -/

namespace Toolpath

open Text

namespace Command

theorem ofText_withLineFeeds (text : List Char) : ofText (withLineFeeds text) = ofText text := by
  rw [ofText, sourceLines, lines_withLineFeeds, ofText, sourceLines]

end Command

theorem interpret_withLineFeeds (settings : Settings) (text : String) :
    interpret settings (String.ofList (withLineFeeds text.toList)) = interpret settings text := by
  rw [interpret, String.toList_ofList, Command.ofText_withLineFeeds, interpret]

namespace World

structure Holds (world : World) (source : Source) (bytes : List UInt8) : Prop where
  near : source.isRemote = false
  named : source.trimmed ≠ ""
  read : ∃ path, (Path.parse source.trimmed).expandHome world.homes = .ok path ∧
    world.files.read path = .ok bytes

structure Answers (world : World) (source : Source) (timeout : Double) (text : String) : Prop where
  remote : source.isRemote = true
  replied : world.reply ⟨source.trimmed, timeout⟩ = .accepted text

variable {world : World} {source : Source} {timeout : Double}

theorem load_of_near (near : source.isRemote = false) :
    world.load source timeout = world.loadFile source := by
  simp [load, request?, near]

theorem load_of_remote (remote : source.isRemote = true) :
    world.load source timeout = world.fetch ⟨source.trimmed, timeout⟩ := by
  simp [load, request?, remote]

theorem Holds.load {bytes : List UInt8} (held : world.Holds source bytes) :
    world.load source timeout = .ok (String.ofList (withLineFeeds (decodeUtf8 bytes))) := by
  obtain ⟨path, expanded, found⟩ := held.read
  rw [load_of_near held.near, loadFile, if_neg held.named, expanded]
  dsimp only
  rw [readText, found]

theorem Answers.load {text : String} (answered : world.Answers source timeout text) :
    world.load source timeout = .ok text := by
  rw [load_of_remote answered.remote, fetch, answered.replied]

end World

namespace Loader

@[simp] theorem delivered_report (handlers : Handlers) (delivered : List Geometry)
    (failure : Failure) : (report handlers delivered failure).delivered = delivered := by
  unfold report
  split
  · rfl
  · split <;> rfl

theorem delivered_deliver (loader : Loader) (handlers : Handlers) (text : String) :
    (loader.deliver handlers text).delivered = [loader.geometry text] := by
  unfold deliver
  dsimp only
  split <;> simp

end Loader

/-- A program gives the same result from a file that holds its bytes as from an address that sends
its text: one geometry for the consumer, with the same layers, and the same state and account of the
lines behind it. -/
theorem load_file_eq_load_address (loader : Loader) (world : World) (handlers : Handlers)
    (file address : Source) (text : String)
    (held : world.Holds file (encodeUtf8 text.toList))
    (answered : world.Answers address loader.timeout text) :
    let read := String.ofList (withLineFeeds (decodeUtf8 (encodeUtf8 text.toList)))
    interpret loader.settings read = interpret loader.settings text ∧
      (loader.load world handlers file).delivered = [loader.geometry text] ∧
      loader.load world handlers file = loader.load world handlers address := by
  intro read
  have same : interpret loader.settings read = interpret loader.settings text := by
    rw [← interpret_withLineFeeds loader.settings text, ← decodeUtf8_encodeUtf8 text.toList]
  have drawn : loader.geometry read = loader.geometry text := by
    rw [Loader.geometry, Geometry.ofText, same, Loader.geometry, Geometry.ofText]
  have fromFile : loader.load world handlers file = loader.deliver handlers read := by
    rw [Loader.load, held.load]
  have fromAddress : loader.load world handlers address = loader.deliver handlers text := by
    rw [Loader.load, answered.load]
  have delivered : loader.deliver handlers read = loader.deliver handlers text := by
    rw [Loader.deliver, drawn, Loader.deliver]
  refine ⟨same, ?_, ?_⟩
  · rw [fromFile, Loader.delivered_deliver, drawn]
  · rw [fromFile, fromAddress, delivered]

theorem load_file_eq_load_address_of_returns :
    let text := "G1 X1 E1\r\nG1 X2 E2\r;\r\r\nG2 X\u2028T1 G1 Z3 E3"
    let file := Source.text " part.gcode"
    let address := Source.text "HTTPS://example.com/part.gcode"
    let world : World :=
      { files := ⟨[(["part.gcode"], .file (encodeUtf8 text.toList))], []⟩
        homes := "/home"
        reply := fun _ => .response 200 text }
    let loader : Loader := ⟨.standard, Loader.standardTimeout⟩
    let handlers : Handlers := ⟨fun _ => none, none⟩
    world.Holds file (encodeUtf8 text.toList) ∧ world.Answers address loader.timeout text ∧
      loader.load world handlers file = loader.load world handlers address := by
  intro text file address world loader handlers
  have stored (bytes : List UInt8) : FileTree.read ⟨[(["part.gcode"], .file bytes)], []⟩
      ⟨.relative, ["part.gcode"]⟩ = .ok bytes := rfl
  have parsed : Path.parse file.trimmed = ⟨.relative, ["part.gcode"]⟩ := by decide +kernel
  have expanded : (Path.parse file.trimmed).expandHome world.homes =
      .ok ⟨.relative, ["part.gcode"]⟩ := by
    rw [parsed]
    rfl
  have held : world.Holds file (encodeUtf8 text.toList) :=
    ⟨by decide +kernel, by decide +kernel, _, expanded, stored _⟩
  have answered : world.Answers address loader.timeout text :=
    ⟨by decide +kernel, rfl⟩
  exact ⟨held, answered,
    (load_file_eq_load_address loader world handlers file address text held answered).2.2⟩

end Toolpath
