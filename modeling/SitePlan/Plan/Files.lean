import SitePlan.Json.Printer
import SitePlan.Plan.Document
import SitePlan.Yaml.Printer

/-!
# The files of a plan

A plan is written as one file that the layout service is loaded with, and one file for
each network that people read.
-/

namespace SitePlan.Plan

/-- The name of the file for the layout service. -/
def serviceFile : String := "sls_input_file.json"

/-- The name of the directory for the files of networks. -/
def networksDirectory : String := "networks"

/-- The path of the file of a network. -/
def networkFile (name : String) : String := s!"{networksDirectory}/{name}.yaml"

/-- The files of a plan by path and text, in the order in which they are written: that of
the layout service, then those of the networks by name. -/
def fileList (plan : Plan) : List (String × String) :=
  (serviceFile, Json.render plan.toJson) ::
    plan.networks.entries.map fun (name, network) =>
      (networkFile name, Yaml.render network.toJson)

/-- The texts of a plan's files by path. -/
def files (plan : Plan) : SortedMap String := .ofList plan.fileList

end SitePlan.Plan
