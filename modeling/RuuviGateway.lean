import RuuviGateway.AdvJson.Mqtt
import RuuviGateway.AdvMqtt.InstantMode
import RuuviGateway.AdvTable.FilteredHistory
import RuuviGateway.AdvTable.ManufId
import RuuviGateway.AdvTable.Representation
import RuuviGateway.AdvTable.SampleCounters
import RuuviGateway.AsyncComm.MqttPeriodic
import RuuviGateway.AsyncComm.WakeUp
import RuuviGateway.AutoUpdate.InTime
import RuuviGateway.AutoUpdate.Installed
import RuuviGateway.EventMgr.Subscriptions
import RuuviGateway.GwCfg.Serializable
import RuuviGateway.GwCfgJson.BlobMigration
import RuuviGateway.GwCfgJson.HttpAuthChange
import RuuviGateway.GwCfgJson.Mutex
import RuuviGateway.GwCfgJson.NumberGetters
import RuuviGateway.GwCfgJson.ScanFilter
import RuuviGateway.GwCfgJson.UiClient
import RuuviGateway.GwCfgJson.UiSave
import RuuviGateway.HttpPost.HmacSha256
import RuuviGateway.HttpPost.Released
import RuuviGateway.HttpPost.RespBuffer
import RuuviGateway.HttpPost.StreamReaderNvs
import RuuviGateway.Leds.Indication
import RuuviGateway.Leds.Sequences
import RuuviGateway.Leds.Switch
import RuuviGateway.MainLoop.CfgMode
import RuuviGateway.MainLoop.DeferredEthernet
import RuuviGateway.Metrics.Document
import RuuviGateway.Mqtt.Client
import RuuviGateway.Mqtt.Publish
import RuuviGateway.Nrf52.AckMatching
import RuuviGateway.Nrf52.Configured
import RuuviGateway.Nrf52.LedRequests
import RuuviGateway.Nrf52Fw.SegmentLine
import RuuviGateway.Nrf52Fw.Update
import RuuviGateway.Ota.Writer
import RuuviGateway.Relaying.Handshake
import RuuviGateway.Relaying.MqttUrl
import RuuviGateway.Relaying.QueryLookups
import RuuviGateway.Relaying.Requests
import RuuviGateway.ResetInfo.Journal
import RuuviGateway.Settings.Boot
import RuuviGateway.Settings.WifiReboot
import RuuviGateway.TimeStr.Exact
import RuuviGateway.TimeTask.Running
import RuuviGateway.Timers.Periods
import RuuviGateway.Tls.SharedBuf
