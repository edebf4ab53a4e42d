/-
The check wired to its collaborators as a configuration names them.
-/
import ClusterWatch.Adviser
import ClusterWatch.Check
import ClusterWatch.Exporter
import ClusterWatch.Telegram

namespace ClusterWatch.Pipeline

def collaborators (config : Config) : Check.Collaborators Http.Network where
  collect := Exporter.collect config.collectorUrl
  recommend := Adviser.recommend config.model
  send := (Telegram.new config.telegramBase config.dashboardUrl).send

/-- Makes one check. -/
def run (config : Config) (context : Check.Context) (net : Http.Network) :
    Except Failure Check.Result × AnnouncementLog × Http.Network :=
  Check.perform (collaborators config) .notification context net

/-- Makes checks one after the other, each at its own time, which share the log of announcements. -/
def runAll (config : Config) (store : Store) :
    List Instant → AnnouncementLog → Http.Network →
      List (Except Failure Check.Result) × AnnouncementLog × Http.Network
  | [], log, net => ([], log, net)
  | clock :: more, log, net =>
      let (result, log, net) := run config ⟨store, log, config.deduplicate, clock⟩ net
      let (results, log, net) := runAll config store more log net
      (result :: results, log, net)

end ClusterWatch.Pipeline
