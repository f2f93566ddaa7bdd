import Readiness.Duration.Printer
import Readiness.Log.Registry
import Readiness.Service.Admin
import Readiness.Service.Exercise
import Readiness.Service.Manual
import Readiness.Service.Pipeline
import Readiness.Settings.Basic

/-!
This module contains the service: its application, its pipeline and its logging as the settings ask for them.
-/

namespace Readiness

structure Service where
  settings : Settings
  /-- The startup delay as resets echo it. -/
  delayText : String
  /-- Whether the routes that exercise the pipeline are there. -/
  exercised : Bool

namespace Service

/-- A service can be made unless the startup delay has no text. -/
def ofSettings (c : Settings) (exercised : Bool) : Except Double.IntegerError Service :=
  return { settings := c, delayText := (← Duration.format c.startupDelay), exercised }

def identity (s : Service) : Log.Identity :=
  ⟨s.settings.serviceName, s.settings.version⟩

def routes (s : Service) : List (Route Gates) :=
  let described := Probe.routes s.identity ++ Admin.routes s.delayText
    ++ (if s.exercised then Exercise.routes Http.jsonUtf8 else [])
  (if s.settings.debug then Manual.routes s.identity described else []) ++ described

def app (s : Service) : App Gates where
  tick := Gates.tick
  handle := Route.dispatch s.routes

/-- The pipeline, with a source of random bytes. -/
def pipeline (s : Service) (draw : Nat → List UInt8) : Pipeline :=
  ⟨s.settings.maxBodyBytes, draw⟩

/-- Logging as the settings ask for it. -/
def registryOf (c : Settings) : Log.Registry :=
  (Log.Registry.initial false).setup {
    level := c.logLevel.settingName
    json := c.jsonLogs
    service := c.serviceName
    version := c.version }

/-- The world of a service that was just made. -/
def genesis (s : Service) (clock : Clock) : World Gates :=
  ⟨clock, 0, Gates.start s.settings.startupDelay s.settings.startupDelay clock⟩

def serve (s : Service) (draw : Nat → List UInt8) (w : World Gates) (call : Call) : Served Gates :=
  (s.pipeline draw).serve s.app w call

def eventsLogger : String := "app.core.events"

def startRecord (s : Service) : Log.Record where
  source := .structured
  logger := eventsLogger
  level := .info
  event := "service_starting"
  fields := [
    ("port", .int s.settings.port),
    ("startup_delay", .str s.delayText),
    ("max_body_bytes", .int s.settings.maxBodyBytes)]

def stopRecord (g : Gates) : Log.Record where
  source := .structured
  logger := eventsLogger
  level := .info
  event := "service_stopped"
  fields := [("health_achieved", .bool g.health.achieved), ("ready_achieved", .bool g.ready.achieved)]

end Service
end Readiness
