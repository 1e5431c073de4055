import Sct.Lib.Scan
import Sct.Trigger.Matrix

/-!
# The script that triggers a job

`_build_trigger_groovy` of `sdcm/utils/trigger_matrix/groovy.py`. The job name stands in literals in
single quotes and in messages in double quotes, the names and values of the parameters in single
quotes only. The variables `JOB_NAME` and `BUILD_NUMBER` are those of a Jenkins build, whose number
has digits only; both are empty outside of one.
-/

namespace Sct.Trigger

open Sct.Scan

def escapeGroovyString (value : String) : String :=
  String.ofList (replace ['\''] ['\\', '\''] (replace ['\\'] ['\\', '\\'] value.toList))

/-- `JOB_NAME` and `BUILD_NUMBER` of the environment. -/
structure Upstream where
  job : String
  build : String
  digits : ∀ char ∈ build.toList, isDigit char = true

def parameterGroovy (parameter : String × ParamValue) : String :=
  "new StringParameterValue(" ++ "'" ++ escapeGroovyString parameter.1 ++ "', '" ++
    escapeGroovyString parameter.2.str ++ "')"

def paramsGroovy (parameters : Params) : String :=
  ", ".intercalate (parameters.entries.map parameterGroovy)

def causeSection (upstream : Upstream) : String :=
  if upstream.job ≠ "" ∧ upstream.build ≠ "" then
    let escapedUpstream := escapeGroovyString upstream.job
    "\ndef upstreamJob = Jenkins.instance.getItemByFullName(" ++ "'" ++ escapedUpstream ++ "')" ++
    "\ndef upstreamBuild = upstreamJob?.getBuildByNumber(" ++ upstream.build ++
    ")\ndef cause\nif (upstreamBuild) \x7b\n" ++
    "    cause = new hudson.model.Cause.UpstreamCause((hudson.model.Run) upstreamBuild)\n" ++
    "\x7d else \x7b\n    cause = new hudson.model.Cause.RemoteCause(" ++
    "'" ++ escapedUpstream ++ "', '" ++ "Build #" ++ upstream.build ++
    " (upstream build not found)" ++ "')" ++ "\n\x7d\n"
  else
    "\ndef cause = new hudson.model.Cause.RemoteCause('trigger-matrix', " ++
    "'Triggered via SCT trigger-matrix CLI')\n"

def outputSection (returnQueueUrl : Bool) : String :=
  if returnQueueUrl then
    "\ndef rootUrl = Jenkins.instance.rootUrl ?: ''\n" ++
    "println \"TRIGGERED:$\x7brootUrl\x7dqueue/item/$\x7bqueueItem.id\x7d/\"\n"
  else "\nprintln \"TRIGGERED:$\x7btargetJob.getAbsoluteUrl()\x7d\"\n"

def buildTriggerGroovy (jobName : String) (parameters : Params) (returnQueueUrl : Bool)
    (upstream : Upstream) : String :=
  let escapedJobName := escapeGroovyString jobName
  "\nimport jenkins.model.Jenkins\nimport hudson.model.*\n\n" ++
  "def targetJob = Jenkins.instance.getItemByFullName(" ++ "'" ++ escapedJobName ++ "')" ++
  "\nif (!targetJob) \x7b\n    println " ++
  "\"" ++ "ERROR: Job not found: " ++ escapedJobName ++ "\"\n" ++
  "    return\n\x7d\n" ++
  causeSection upstream ++
  "\ndef params = [" ++ paramsGroovy parameters ++
  "]\ndef actions = []\nif (params) \x7b\n    actions.add(new ParametersAction(params))\n\x7d\n" ++
  "actions.add(new CauseAction(cause))\n\n" ++
  "def queueItem = targetJob.isBuildable() ? " ++
  "Jenkins.instance.queue.schedule2(targetJob, 0, actions).item : null\n" ++
  "if (queueItem != null) \x7b\n" ++
  outputSection returnQueueUrl ++
  "\n\x7d else \x7b\n    println " ++
  "\"" ++ "ERROR: build was not queued for " ++ escapedJobName ++ "\"\n" ++
  "\x7d\n"

end Sct.Trigger
