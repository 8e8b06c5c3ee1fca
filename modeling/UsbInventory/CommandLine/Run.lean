/-
The program as a whole: from the arguments, the environment and the world to what is printed and the exit
code. The settings come from a configuration file and are overridden by the options; then one scan is run,
its identities are listed, and the worker is stopped.
-/
import UsbInventory.CommandLine.Listing
import UsbInventory.CommandLine.Report
import UsbInventory.CommandLine.Usage
import UsbInventory.Log.Filter
import UsbInventory.Settings.Files
import UsbInventory.Worker.Service

namespace UsbInventory.CommandLine

/-! ## What a run leaves -/

/-- Something that is written. -/
inductive Output where
  /-- Text on the standard output. -/
  | listing (text : String)
  /-- An event in the log, which goes to the standard error. -/
  | logged (event : Log.Event)
  /-- A line on the standard error. -/
  | told (line : String)
  deriving DecidableEq, Repr

/-- What is left of a run. -/
structure Ending where
  code : Nat
  output : List Output
  files : FileSystem

namespace Ending

/-- The end of a run with an error. -/
def failed (files : FileSystem) (output : List Output) (chain : List String) : Ending :=
  ⟨1, output ++ (errorReport chain).map .told, files⟩

/-- All that is written to the standard output. -/
def stdout (e : Ending) : String :=
  String.join (e.output.filterMap fun
    | .listing text => some text
    | _ => none)

end Ending

/-- The text of a list of lines, each of them ended. -/
def ended (lines : List String) : String := String.join (lines.map (· ++ "\n"))

/-! ## Settings -/

/-- Puts what the options say into a configuration. -/
def Options.override (o : Options) (c : Configuration) : Configuration :=
  let general := { c.general with
    logLevel := o.logLevel.getD c.general.logLevel
    backend := o.backend.getD c.general.backend
    output := if o.json then .json else c.general.output }
  let discovery := { c.discovery with
    devUsbRoot := o.devUsbRoot.getD c.discovery.devUsbRoot
    devicesRoot := o.devicesRoot.getD c.discovery.devicesRoot
    snapshotRoot := o.snapshot.or c.discovery.snapshotRoot }
  { c with general, discovery }

/-- The configuration before the options are put in. A named file has to be good; the usual files count
only if they are. -/
def Options.loaded (o : Options) (env : Environment) (files : FileSystem) :
    Except LoadError Configuration :=
  match o.config with
  | some path => Configuration.load env files (some path)
  | none => .ok (Configuration.loadOrDefault env files)

/-- The configuration for a run, or the messages of the failure to get one. -/
def Options.configuration (o : Options) (env : Environment) (files : FileSystem) :
    Except (List String) Configuration :=
  match o.loaded env files with
  | .error e => .error ("Failed to load configuration" :: e.chain)
  | .ok c =>
    let c := (o.override c).expandPaths env files
    match c.validate with
    | .ok _ => .ok c
    | .error e => .error ["Invalid configuration", e.message]

/-- Saves the standard configuration for the user. -/
def saveDefault (env : Environment) (files : FileSystem) : Ending :=
  let c : Configuration := {}
  match c.save files env.userFile with
  | (files, .ok _) =>
    ⟨0, [.listing (ended [s!"Configuration saved to: {env.userFile.display}"])], files⟩
  | (files, .error e) => .failed files [] ("Failed to save configuration" :: e.chain)

/-! ## Logging -/

/-- The filter for the log: the directives of the environment if they can be read, or else the one for the
configured level. -/
def logFilter (env : Environment) (c : Configuration) : Log.Filter :=
  let given := (env.logDirectives.bind RawPath.text?).bind fun text =>
    Log.Filter.parse? text.toList
  given.getD (.standard ((Log.Level.ofName? c.general.logLevel).getD .info))

/-! ## The scan -/

private def ownEvent (level : Log.Level) (message : String) : Log.Event :=
  { level, target := "usb_enum", message }

/-- What a requester gets from a scan, or the messages of its failure. -/
def scanResult : Except ServiceError Service.ScanReport → Except (List String) PassSummary
  | .error e => .error ["Failed to send Scan command", e.message]
  | .ok report =>
    match report.outcome with
    | none => .error ["Discovery worker dropped the scan", "channel closed"]
    | some (.failed text) => .error ["No devices found", (ServiceError.discovery text).message]
    | some (.completed summary) => .ok summary

/-- The identities that a requester got, in order. -/
def scanDevices : Except ServiceError Service.ScanReport → List DeviceIdentity
  | .error _ => []
  | .ok report => report.registry.devices

/-- The last line of a run that came to its end. -/
def summaryText (s : PassSummary) : String :=
  let skipped := s.instancesSkipped + s.groupsSkipped
  s!"{s.devices.toNat} device(s), {s.discarded.toNat} discarded, {skipped.toNat} instance(s) skipped"

/-- Runs one scan with a configuration. -/
def enumerate (env : Environment) (world : World) (c : Configuration) : Ending :=
  let filter := logFilter env c
  let log := fun (events : List Log.Event) => (events.filter filter.shows).map Output.logged
  let opening := log [ownEvent .info s!"{programName} v{programVersion}"]
  match Backend.create c world.bus with
  | .error e => .failed world.files opening ("Failed to create USB backend" :: e.chain)
  | .ok backend =>
    let pass := ServedPass.ofEnumeration (backend.enumerate world)
    let (service, scanned, scanEvents) := ({} : Service).scan fun _ => pass
    let (_, stopped, stopEvents) := service.shutdown
    let stopFailure := match stopped with
      | .ok _ => []
      | .error e => [ownEvent .error s!"Error shutting down discovery worker: {e.message}"]
    let output :=
      opening ++ log (backend.creationEvents ++ Worker.startEvents backend.name ++ scanEvents) ++
        [.listing (c.general.output.listing (scanDevices scanned))] ++
        log (stopEvents ++ stopFailure)
    match scanResult scanned with
    | .ok summary => ⟨0, output ++ [.told (summaryText summary)], world.files⟩
    | .error chain => .failed world.files output chain

/-! ## The whole -/

/-- Runs the program. -/
def run (env : Environment) (world : World) (arguments : List RawPath) : Ending :=
  match Request.ofArguments arguments with
  | .misuse cause => ⟨2, cause.report.map .told, world.files⟩
  | .help full => ⟨0, [.listing (ended (helpLines full))], world.files⟩
  | .version => ⟨0, [.listing (ended [versionLine])], world.files⟩
  | .run options =>
    if options.saveConfig then saveDefault env world.files
    else
      match options.configuration env world.files with
      | .error chain => .failed world.files [] chain
      | .ok c => enumerate env world c

end UsbInventory.CommandLine
